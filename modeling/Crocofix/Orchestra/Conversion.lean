/-
Converting a repository keeps the fields of its messages.

The repository expands names of components to their contents, the loaded
orchestration expands ids of components to their references.  Both go through the
same contents, and they agree on a message exactly when nothing that it reaches has
a tag or an id that counts as false.
-/

import Crocofix.Library.Fuel
import Crocofix.Orchestra.Repository
import Crocofix.Orchestra.Reread

namespace Crocofix.FixRepository

open Orchestra (Failure Reference Xml Id item ok_bind rereadReference reread
  referencesToFields)

/-! ### Well-formed repositories -/

/-- The tag text is the tag of a field or else the name of a component. -/
inductive Resolves (repository : Repository) (content : MsgContent) : Prop
  | field {id : Int} {field : Field} (number : Text.int content.tagText = some id)
      (found : repository.fieldsByTag.get? id = some field)
  | component {component : Component} (name : Text.int content.tagText = none)
      (found : repository.components.get? content.tagText = some component)

structure Names (repository : Repository) (content : MsgContent)
    (component : Component) : Prop where
  name : Text.int content.tagText = none
  found : repository.components.get? content.tagText = some component

def Nests (repository : Repository) (inner outer : Text) : Prop :=
  ∃ contents, repository.msgContents.get? outer = some contents ∧
    ∃ content ∈ contents, ∃ component, Names repository content component ∧
      component.componentID = inner

structure Repository.WellFormed (repository : Repository) : Prop where
  resolves : ∀ id contents, repository.msgContents.get? id = some contents →
    ∀ content ∈ contents, Resolves repository content
  componentContents : ∀ component ∈ repository.components.values,
    ∃ contents, repository.msgContents.get? component.componentID = some contents
  messageContents : ∀ message ∈ repository.messages,
    ∃ contents, repository.msgContents.get? message.componentID = some contents
  componentIDs : ∀ left ∈ repository.components.values,
    ∀ right ∈ repository.components.values,
      left.componentID = right.componentID → left = right
  msgTypes : ∀ left ∈ repository.messages, ∀ right ∈ repository.messages,
    left.msgType = right.msgType → left = right
  acyclic : ∀ id, ¬ Relation.TransGen (Nests repository) id id

theorem Names.mem_values {repository : Repository} {content : MsgContent}
    {component : Component} (names : Names repository content component) :
    component ∈ repository.components.values :=
  (Dict.mem_values_iff _ component).mpr ⟨_, names.found⟩

theorem nests_wellFounded {repository : Repository}
    (wellFormed : repository.WellFormed) : WellFounded (Nests repository) := by
  apply wellFounded_of_acyclic _ wellFormed.acyclic
  apply (repository.components.values.map Component.componentID).finite_toSet.subset
  rintro inner ⟨outer, contents, -, content, -, component, names, rfl⟩
  exact List.mem_map_of_mem names.mem_values

/-! ### The fields in the repository -/

section contents

variable {repository : Repository} {depth : Nat} {content : MsgContent}
  {contents : List MsgContent}

theorem extractContents_field {id : Int} {field : Field}
    (number : Text.int content.tagText = some id)
    (found : repository.fieldsByTag.get? id = some field) {rest : List MessageField}
    (settles : Settles (fun fuel => extractContents repository depth
      (extractFields repository fuel) contents) rest) :
    Settles (fun fuel => extractContents repository depth
      (extractFields repository fuel) (content :: contents))
        (⟨field, content.reqd, depth⟩ :: rest) := by
  simp only [extractContents, number, found]
  exact settles.bind (settles_ok _)

theorem extractContents_component {component : Component}
    (names : Names repository content component) {inner rest : List MessageField}
    (expands : Settles (fun fuel => extractFields repository fuel
      component.componentID (depth + 1)) inner)
    (settles : Settles (fun fuel => extractContents repository depth
      (extractFields repository fuel) contents) rest) :
    Settles (fun fuel => extractContents repository depth
      (extractFields repository fuel) (content :: contents)) (inner ++ rest) := by
  simp only [extractContents, names.name, names.found]
  exact expands.bind (settles.bind (settles_ok _))

theorem extractFields_of_contents {id : Text}
    (listed : repository.msgContents.get? id = some contents)
    {found : List MessageField}
    (settles : Settles (fun fuel => extractContents repository depth
      (extractFields repository fuel) contents) found) :
    Settles (fun fuel => extractFields repository fuel id depth) found := by
  apply Settles.succ
  simp only [extractFields, listed]
  exact settles

theorem extractContents_settles
    (resolves : ∀ content ∈ contents, Resolves repository content)
    (inner : ∀ content ∈ contents, ∀ component, Names repository content component →
      ∃ found, found ≠ [] ∧ Settles (fun fuel => extractFields repository fuel
        component.componentID (depth + 1)) found) :
    ∃ found, (contents ≠ [] → found ≠ []) ∧
      Settles (fun fuel => extractContents repository depth
        (extractFields repository fuel) contents) found := by
  induction contents with
  | nil => exact ⟨[], fun inhabited => absurd rfl inhabited, settles_ok []⟩
  | cons content contents ih =>
      obtain ⟨rest, -, settles⟩ :=
        ih (fun other later => resolves other (List.mem_cons_of_mem _ later))
          fun other later => inner other (List.mem_cons_of_mem _ later)
      cases resolves content List.mem_cons_self with
      | field number found =>
          exact ⟨_, fun _ => List.cons_ne_nil _ _,
            extractContents_field number found settles⟩
      | component name found =>
          have names : Names repository content _ := ⟨name, found⟩
          obtain ⟨fields, inhabited, expands⟩ :=
            inner content List.mem_cons_self _ names
          exact ⟨_, fun _ => List.append_ne_nil_of_left_ne_nil inhabited _,
            extractContents_component names expands settles⟩

end contents

/-- With enough fuel every id that has contents expands to at least one field. -/
theorem extractFields_settles {repository : Repository}
    (wellFormed : repository.WellFormed) (id : Text) :
    ∀ contents, repository.msgContents.get? id = some contents → ∀ depth,
      ∃ found, found ≠ [] ∧
        Settles (fun fuel => extractFields repository fuel id depth) found := by
  induction id using (nests_wellFounded wellFormed).induction with
  | h id ih =>
      intro contents listed depth
      have inhabited : contents ≠ [] := by
        rintro rfl
        exact repository.appended id listed
      obtain ⟨found, nonempty, settles⟩ : ∃ found, (contents ≠ [] → found ≠ []) ∧
          Settles (fun fuel => extractContents repository depth
            (extractFields repository fuel) contents) found := by
        apply extractContents_settles (wellFormed.resolves id contents listed)
        intro content member component names
        obtain ⟨inner, expanded⟩ := wellFormed.componentContents component names.mem_values
        exact ih component.componentID ⟨contents, listed, content, member, component,
          names, rfl⟩ inner expanded (depth + 1)
      exact ⟨found, nonempty inhabited, extractFields_of_contents listed settles⟩

/-! ### The loaded orchestration -/

def reference? (repository : Repository) (content : MsgContent) : Option Reference :=
  (buildReference repository content).toOption.join

def references (repository : Repository) (id : Text) : List Reference :=
  ((repository.msgContents.get? id).getD []).filterMap (reference? repository)

def link (repository : Repository) (content : MsgContent) : Option Reference :=
  (reference? repository content).bind rereadReference

def links (repository : Repository) (id : Text) : List Reference :=
  ((repository.msgContents.get? id).getD []).filterMap (link repository)

def convertedComponent (repository : Repository) (source : Component) :
    Orchestra.Component :=
  ⟨.text source.componentID, source.name, source.categoryId, source.description,
    source.pedigree, references repository source.componentID⟩

def convertedMessage (repository : Repository) (source : Message) : Orchestra.Message :=
  ⟨.text source.componentID, source.name, source.msgType, source.categoryID,
    source.description, source.pedigree, references repository source.componentID⟩

def converted (repository : Repository) : Orchestra.Orchestration where
  dataTypes := .ofValues Orchestra.DataType.name
    (repository.dataTypes.values.map convertDataType)
  codeSets := .ofValues Orchestra.CodeSet.name
    (repository.fieldsByTag.values.filterMap (convertCodeSet repository))
  fieldsByTag := .ofValues Orchestra.Field.id
    (repository.fieldsByTag.values.map (convertField repository))
  components := .ofValues Orchestra.Component.id
    (repository.components.values.map (convertedComponent repository))
  groups := .empty
  messages := .empty
  messagesByMsgType := .ofValues Orchestra.Message.msgType
    (repository.messagesByMsgType.values.map (convertedMessage repository))
  version := repository.version

theorem filterMap_rereadReference (repository : Repository) (id : Text) :
    (references repository id).filterMap rereadReference = links repository id := by
  unfold references links
  rw [List.filterMap_filterMap]
  rfl

section loaded

variable {repository : Repository}

theorem loaded_field {id : Int} {field : Field}
    (found : repository.fieldsByTag.get? id = some field) :
    (reread (converted repository)).fieldsByTag.get? id =
      some (Orchestra.rereadField (convertField repository field)) := by
  have distinct : ∀ left ∈ repository.fieldsByTag.values,
      ∀ right ∈ repository.fieldsByTag.values, left.id = right.id → left = right := by
    intro left inside right other
    exact repository.tagged.eq_of_key inside other
  have member := (Dict.mem_values_iff _ field).mpr ⟨id, found⟩
  rw [← repository.tagged id field found]
  exact Dict.get?_ofValues_twice (convertField repository) Orchestra.Field.id
    Orchestra.rereadField Orchestra.Field.id distinct distinct member

theorem component_of_loaded {id : Text} {loaded : Orchestra.Component}
    (found : (reread (converted repository)).components.get? (.text id) = some loaded) :
    ∃ component ∈ repository.components.values, component.componentID = id ∧
      loaded.references = links repository id := by
  obtain ⟨component, member, rfl, same⟩ := Dict.mem_of_get?_ofValues_twice found
  have equal : component.componentID = id := Id.text.inj same
  refine ⟨component, member, equal, ?_⟩
  rw [← equal]
  exact filterMap_rereadReference repository component.componentID

variable (wellFormed : repository.WellFormed)

include wellFormed

theorem buildReferences_ok {id : Text} {contents : List MsgContent}
    (listed : repository.msgContents.get? id = some contents) :
    buildReferences repository id = .ok (references repository id) := by
  have each : ∀ content ∈ contents,
      buildReference repository content = .ok (reference? repository content) := by
    intro content member
    unfold reference?
    cases wellFormed.resolves id contents listed content member with
    | field number found => simp only [buildReference, number, item, found]; rfl
    | component name found => simp only [buildReference, name, found]; rfl
  unfold buildReferences references
  rw [item, listed, ok_bind, Orchestra.mapM_ok each]
  change Except.ok (contents.map (reference? repository)).reduceOption = _
  rw [List.reduceOption, List.filterMap_map]
  rfl

theorem convert_ok : convert repository = .ok (converted repository) := by
  have components : ∀ component ∈ repository.components.values,
      convertComponent repository component =
        .ok (convertedComponent repository component) := by
    intro component member
    obtain ⟨contents, listed⟩ := wellFormed.componentContents component member
    unfold convertComponent
    rw [buildReferences_ok wellFormed listed]
    rfl
  have messages : ∀ message ∈ repository.messagesByMsgType.values,
      convertMessage repository message =
        .ok (convertedMessage repository message) := by
    intro message member
    rw [repository.typed] at member
    obtain ⟨contents, listed⟩ :=
      wellFormed.messageContents message (Dict.mem_values_ofValues member)
    unfold convertMessage
    rw [buildReferences_ok wellFormed listed]
    rfl
  unfold convert
  rw [Orchestra.mapM_ok components, ok_bind, Orchestra.mapM_ok messages]
  rfl

theorem loaded_component {component : Component}
    (member : component ∈ repository.components.values) :
    ∃ loaded, (reread (converted repository)).components.get?
      (.text component.componentID) = some loaded ∧
        loaded.references = links repository component.componentID := by
  have distinct : ∀ left ∈ repository.components.values,
      ∀ right ∈ repository.components.values,
        Id.text left.componentID = Id.text right.componentID → left = right := by
    intro left inside right other same
    exact wellFormed.componentIDs left inside right other (Id.text.inj same)
  exact ⟨_, Dict.get?_ofValues_twice (convertedComponent repository)
    Orchestra.Component.id Orchestra.rereadComponent Orchestra.Component.id distinct
      distinct member,
    filterMap_rereadReference repository component.componentID⟩

theorem loaded_message {message : Message} (member : message ∈ repository.messages) :
    ∃ loaded, (reread (converted repository)).messagesByMsgType.get? message.msgType =
      some loaded ∧ loaded.references = links repository message.componentID := by
  have known : message ∈ repository.messagesByMsgType.values := by
    rw [repository.typed]
    exact Dict.mem_values_ofValues_of_mem wellFormed.msgTypes member
  have distinct : ∀ left ∈ repository.messagesByMsgType.values,
      ∀ right ∈ repository.messagesByMsgType.values,
        left.msgType = right.msgType → left = right := by
    rw [repository.typed]
    intro left inside right other same
    exact wellFormed.msgTypes left (Dict.mem_values_ofValues inside) right
      (Dict.mem_values_ofValues other) same
  exact ⟨_, Dict.get?_ofValues_twice (convertedMessage repository)
    Orchestra.Message.msgType Orchestra.rereadMessage Orchestra.Message.msgType distinct
      distinct known,
    filterMap_rereadReference repository message.componentID⟩

end loaded

/-! ### Links -/

structure LeadsTo (reference : Reference) (id : Text) : Prop where
  field : reference.field? = none
  group : reference.group? = none
  component : reference.component? = some (.text id)

theorem rereadReference_of_inhabited {reference : Reference} {id : Text}
    (field : reference.field? = none) (component : reference.componentId = some (.text id))
    (inhabited : id ≠ []) :
    ∃ loaded, rereadReference reference = some loaded ∧ LeadsTo loaded id := by
  have target : reference.component? = some (.text id) := by
    unfold Reference.component?
    rw [component]
    exact Option.filter_eq_some_iff.mpr ⟨rfl, decide_eq_true inhabited⟩
  unfold rereadReference
  rw [field, target]
  refine ⟨_, rfl, rfl, rfl, ?_⟩
  exact Option.filter_eq_some_iff.mpr ⟨rfl, decide_eq_true inhabited⟩

theorem rereadReference_of_empty {reference : Reference}
    (field : reference.field? = none) (component : reference.componentId = some (.text [])) :
    rereadReference reference = none := by
  have target : reference.component? = none := by
    unfold Reference.component?
    rw [component]
    rfl
  unfold rereadReference
  rw [field, target]
  rfl

theorem presence_eq_required_iff (content : MsgContent) :
    presence content = "required".toList ↔ content.reqd = "1".toList := by
  unfold presence
  split
  · next required => exact iff_of_true rfl required
  · next optional => exact iff_of_false (by decide) optional

theorem truthy_presence (content : MsgContent) :
    Orchestra.truthy (some (presence content)) = some (presence content) := by
  unfold presence
  split <;> rfl

section links

variable {repository : Repository} {content : MsgContent}

theorem reference?_field {id : Int} {field : Field}
    (number : Text.int content.tagText = some id)
    (found : repository.fieldsByTag.get? id = some field) :
    reference? repository content = some ⟨some id, none, some (.text content.componentID),
      some (presence content), content.description, content.pedigree⟩ := by
  have tag := repository.tagged id field found
  unfold reference?
  simp only [buildReference, number, item, found, ok_bind, tag]
  rfl

theorem reference?_component {component : Component}
    (names : Names repository content component) :
    reference? repository content = some ⟨none, none, some (.text component.componentID),
      some (presence content), content.description, content.pedigree⟩ := by
  unfold reference?
  simp only [buildReference, names.name, names.found]
  rfl

theorem link_field {id : Int} {field : Field}
    (number : Text.int content.tagText = some id)
    (found : repository.fieldsByTag.get? id = some field) (nonzero : id ≠ 0) :
    ∃ reference, link repository content = some reference ∧
      reference.field? = some id ∧ reference.presence = some (presence content) := by
  have kept : (some id).filter (· ≠ 0) = some id :=
    Option.filter_eq_some_iff.mpr ⟨rfl, decide_eq_true nonzero⟩
  unfold link
  rw [reference?_field number found, Option.bind_some, rereadReference,
    Reference.field?, kept]
  exact ⟨_, rfl, kept, truthy_presence content⟩

/-- The tag zero counts as false, and what is left is the component that the content
belongs to. -/
theorem link_zero {field : Field} (number : Text.int content.tagText = some 0)
    (found : repository.fieldsByTag.get? 0 = some field)
    (inhabited : content.componentID ≠ []) :
    ∃ reference, link repository content = some reference ∧
      LeadsTo reference content.componentID := by
  unfold link
  rw [reference?_field number found, Option.bind_some]
  exact rereadReference_of_inhabited rfl rfl inhabited

theorem link_zero_of_empty {field : Field} (number : Text.int content.tagText = some 0)
    (found : repository.fieldsByTag.get? 0 = some field)
    (empty : content.componentID = []) : link repository content = none := by
  unfold link
  rw [reference?_field number found, Option.bind_some, empty]
  exact rereadReference_of_empty rfl rfl

theorem link_component {component : Component}
    (names : Names repository content component) (inhabited : component.componentID ≠ []) :
    ∃ reference, link repository content = some reference ∧
      LeadsTo reference component.componentID := by
  unfold link
  rw [reference?_component names, Option.bind_some]
  exact rereadReference_of_inhabited rfl rfl inhabited

theorem link_component_of_empty {component : Component}
    (names : Names repository content component) (empty : component.componentID = []) :
    link repository content = none := by
  unfold link
  rw [reference?_component names, Option.bind_some, empty]
  exact rereadReference_of_empty rfl rfl

end links

/-! ### The fields in the orchestration -/

section expansion

variable {orchestration : Orchestra.Orchestration} {reference : Reference}
  {depth : Nat}

theorem referenceToFields_field {id : Int} {field : Orchestra.Field}
    (target : reference.field? = some id)
    (found : orchestration.fieldsByTag.get? id = some field)
    (next : List Reference → Nat → Except Failure (List Orchestra.MessageField)) :
    Orchestra.referenceToFields orchestration reference depth next =
      .ok [⟨field, reference.presence, depth⟩] := by
  simp only [Orchestra.referenceToFields, target, item, found]
  rfl

theorem referenceToFields_leadsTo {id : Text} (leads : LeadsTo reference id)
    (next : List Reference → Nat → Except Failure (List Orchestra.MessageField)) :
    Orchestra.referenceToFields orchestration reference depth next =
      item orchestration.components (.text id) >>= fun component =>
        next component.references (depth + 1) := by
  simp only [Orchestra.referenceToFields, leads.field, leads.group, leads.component]

theorem referencesToFields_cons (fuel : Nat) (references : List Reference) :
    referencesToFields orchestration (fuel + 1) (reference :: references) depth =
      Orchestra.referenceToFields orchestration reference depth
        (referencesToFields orchestration fuel) >>= fun first =>
          referencesToFields orchestration (fuel + 1) references depth >>= fun rest =>
            .ok (first ++ rest) := by
  unfold referencesToFields
  rw [List.mapM_cons]
  simp only [bind_assoc, pure_bind, List.flatten_cons]
  rfl

end expansion

/-! ### Agreement -/

/-- The same field at the same depth, and required on both sides or on neither. -/
structure Matches (found : MessageField) (loaded : Orchestra.MessageField) : Prop where
  id : loaded.field.id = found.field.id
  name : loaded.field.name = found.field.name
  depth : loaded.depth = found.depth
  presence : loaded.presence = some "required".toList ↔ found.required = "1".toList

/-- Neither the tag nor the component id counts as false. -/
structure Truthy (repository : Repository) (content : MsgContent) : Prop where
  tag : Text.int content.tagText ≠ some 0
  component : ∀ component, Names repository content component → component.componentID ≠ []

/-- The contents of an id and those of the components among them. -/
inductive Reaches (repository : Repository) : Text → MsgContent → Prop
  | content {id : Text} {contents : List MsgContent} {content : MsgContent}
      (listed : repository.msgContents.get? id = some contents)
      (member : content ∈ contents) : Reaches repository id content
  | nested {inner outer : Text} {content : MsgContent}
      (nests : Nests repository inner outer)
      (reaches : Reaches repository inner content) : Reaches repository outer content

section agreement

variable {repository : Repository} (wellFormed : repository.WellFormed)

include wellFormed

theorem contents_match (depth : Nat) {contents : List MsgContent}
    (resolves : ∀ content ∈ contents, Resolves repository content)
    (truthy : ∀ content ∈ contents, Truthy repository content)
    (inner : ∀ content ∈ contents, ∀ component, Names repository content component →
      ∃ found loaded,
        Settles (fun fuel => extractFields repository fuel component.componentID
          (depth + 1)) found ∧
        Settles (fun fuel => referencesToFields (reread (converted repository)) fuel
          (links repository component.componentID) (depth + 1)) loaded ∧
        List.Forall₂ Matches found loaded) :
    ∃ found loaded,
      Settles (fun fuel => extractContents repository depth
        (extractFields repository fuel) contents) found ∧
      Settles (fun fuel => referencesToFields (reread (converted repository)) (fuel + 1)
        (contents.filterMap (link repository)) depth) loaded ∧
      List.Forall₂ Matches found loaded := by
  induction contents with
  | nil => exact ⟨[], [], settles_ok [], settles_ok [], .nil⟩
  | cons content contents ih =>
      obtain ⟨rest, others, settles, references, same⟩ :=
        ih (fun other later => resolves other (List.mem_cons_of_mem _ later))
          (fun other later => truthy other (List.mem_cons_of_mem _ later))
          fun other later => inner other (List.mem_cons_of_mem _ later)
      have kept := truthy content List.mem_cons_self
      cases resolves content List.mem_cons_self with
      | @field id field number found =>
          have nonzero : id ≠ 0 := by
            rintro rfl
            exact kept.tag number
          obtain ⟨reference, linked, target, presence⟩ := link_field number found nonzero
          refine ⟨_, ⟨Orchestra.rereadField (convertField repository field),
            reference.presence, depth⟩ :: others,
              extractContents_field number found settles, ?_, .cons ⟨rfl, rfl, rfl, ?_⟩ same⟩
          · rw [List.filterMap_cons_some linked]
            simp only [referencesToFields_cons,
              referenceToFields_field target (loaded_field found)]
            exact (settles_ok _).bind (references.bind (settles_ok _))
          · rw [presence, Option.some.injEq]
            exact presence_eq_required_iff content
      | @component component name found =>
          have names : Names repository content component := ⟨name, found⟩
          obtain ⟨fields, loaded, expands, follows, alike⟩ :=
            inner content List.mem_cons_self component names
          obtain ⟨reference, linked, leads⟩ :=
            link_component names (kept.component component names)
          obtain ⟨target, known, references'⟩ :=
            loaded_component wellFormed names.mem_values
          refine ⟨_, loaded ++ others, extractContents_component names expands settles, ?_,
            List.rel_append alike same⟩
          rw [List.filterMap_cons_some linked]
          simp only [referencesToFields_cons, referenceToFields_leadsTo leads, item, known,
            ok_bind, references']
          exact follows.bind (references.bind (settles_ok _))

theorem fields_match (id : Text) :
    ∀ contents, repository.msgContents.get? id = some contents →
      (∀ content, Reaches repository id content → Truthy repository content) → ∀ depth,
        ∃ found loaded,
          Settles (fun fuel => extractFields repository fuel id depth) found ∧
          Settles (fun fuel => referencesToFields (reread (converted repository)) fuel
            (links repository id) depth) loaded ∧
          List.Forall₂ Matches found loaded := by
  induction id using (nests_wellFounded wellFormed).induction with
  | h id ih =>
      intro contents listed truthy depth
      have linked : links repository id = contents.filterMap (link repository) := by
        rw [links, listed, Option.getD_some]
      obtain ⟨found, loaded, settles, references, same⟩ :=
        contents_match wellFormed depth
          (wellFormed.resolves id contents listed)
          (fun content member => truthy content (.content listed member))
          (by
            intro content member component names
            obtain ⟨inner, expanded⟩ :=
              wellFormed.componentContents component names.mem_values
            have nests : Nests repository component.componentID id :=
              ⟨contents, listed, content, member, component, names, rfl⟩
            exact ih component.componentID nests inner expanded
              (fun other reaches => truthy other (.nested nests reaches)) (depth + 1))
      refine ⟨found, loaded, extractFields_of_contents listed settles, ?_, same⟩
      rw [linked]
      exact references.succ

end agreement

/-! ### Disagreement -/

theorem exists_of_bind_ok {α β : Type} {run : Except Failure α}
    {next : α → Except Failure β} {result : β} (ok : run >>= next = .ok result) :
    ∃ value, run = .ok value ∧ next value = .ok result := by
  cases run with
  | error failure => cases ok
  | ok value => exact ⟨value, rfl, ok⟩

section expansion

variable {orchestration : Orchestra.Orchestration}

theorem exists_referenceToFields {fuel depth : Nat} {references : List Reference}
    {loaded : List Orchestra.MessageField}
    (ok : referencesToFields orchestration (fuel + 1) references depth = .ok loaded)
    {reference : Reference} (member : reference ∈ references) :
    ∃ fields, Orchestra.referenceToFields orchestration reference depth
      (referencesToFields orchestration fuel) = .ok fields := by
  induction references generalizing loaded with
  | nil => cases member
  | cons other references ih =>
      rw [referencesToFields_cons] at ok
      obtain ⟨first, head, rest⟩ := exists_of_bind_ok ok
      obtain ⟨others, tail, -⟩ := exists_of_bind_ok rest
      rcases List.mem_cons.mp member with rfl | later
      · exact ⟨first, head⟩
      · exact ih tail later

theorem referencesToFields_of_leadsTo {fuel depth : Nat} {references : List Reference}
    {loaded : List Orchestra.MessageField}
    (ok : referencesToFields orchestration (fuel + 1) references depth = .ok loaded)
    {reference : Reference} (member : reference ∈ references) {id : Text}
    (leads : LeadsTo reference id) :
    ∃ component fields, orchestration.components.get? (.text id) = some component ∧
      referencesToFields orchestration fuel component.references (depth + 1) =
        .ok fields := by
  obtain ⟨fields, single⟩ := exists_referenceToFields ok member
  rw [referenceToFields_leadsTo leads] at single
  obtain ⟨component, known, follows⟩ := exists_of_bind_ok single
  unfold item at known
  split at known
  · cases known
  · next found =>
      cases known
      exact ⟨component, fields, found, follows⟩

theorem referencesToFields_self {references : List Reference} {reference : Reference}
    (member : reference ∈ references) {id : Text} (leads : LeadsTo reference id)
    (self : ∀ component, orchestration.components.get? (.text id) = some component →
      component.references = references) (fuel : Nat) :
    ∀ depth loaded, referencesToFields orchestration fuel references depth ≠ .ok loaded := by
  induction fuel with
  | zero => nofun
  | succ fuel ih =>
      intro depth loaded ok
      obtain ⟨component, fields, known, follows⟩ :=
        referencesToFields_of_leadsTo ok member leads
      rw [self component known] at follows
      exact ih (depth + 1) fields follows

end expansion

structure AtMost (loaded found : Nat) (whole : Prop) : Prop where
  le : loaded ≤ found
  whole : loaded = found → whole

theorem AtMost.add {loaded found more others : Nat} {left right : Prop}
    (first : AtMost loaded found left) (second : AtMost more others right) :
    AtMost (loaded + more) (found + others) (left ∧ right) where
  le := Nat.add_le_add first.le second.le
  whole same := by
    have lower := first.le
    have upper := second.le
    exact ⟨first.whole (by omega), second.whole (by omega)⟩

theorem AtMost.lose {more found others : Nat} {left right : Prop} (lost : 0 < found)
    (second : AtMost more others right) : AtMost more (found + others) left where
  le := Nat.le_add_left_of_le second.le
  whole same := by
    have upper := second.le
    omega

theorem AtMost.mono {loaded found : Nat} {left right : Prop}
    (most : AtMost loaded found left) (weaken : left → right) : AtMost loaded found right :=
  ⟨most.le, fun same => weaken (most.whole same)⟩

structure TruthyBelow (repository : Repository) (content : MsgContent) : Prop where
  here : Truthy repository content
  below : ∀ component, Names repository content component →
    ∀ other, Reaches repository component.componentID other → Truthy repository other

theorem truthyBelow_of_field {repository : Repository} {content : MsgContent} {id : Int}
    (number : Text.int content.tagText = some id) (nonzero : id ≠ 0) :
    TruthyBelow repository content := by
  have unnamed (component : Component) : ¬ Names repository content component := by
    intro names
    rw [names.name] at number
    cases number
  refine ⟨⟨?_, ?_⟩, ?_⟩
  · rw [number]
    exact fun same => nonzero (Option.some.inj same)
  · exact fun component names => absurd names (unnamed component)
  · exact fun component names => absurd names (unnamed component)

theorem truthyBelow_of_component {repository : Repository} {content : MsgContent}
    {component : Component} (names : Names repository content component)
    (inhabited : component.componentID ≠ [])
    (truthy : ∀ other, Reaches repository component.componentID other →
      Truthy repository other) : TruthyBelow repository content := by
  have only (other : Component) (named : Names repository content other) :
      other = component :=
    Option.some.inj (named.found.symm.trans names.found)
  refine ⟨⟨?_, ?_⟩, ?_⟩
  · rw [names.name]
    nofun
  · intro other named
    rw [only other named]
    exact inhabited
  · intro other named
    rw [only other named]
    exact truthy

section disagreement

variable {repository : Repository} (wellFormed : repository.WellFormed)

include wellFormed

/-- The tag zero makes the contents of an id refer to themselves. -/
theorem referencesToFields_zero {id : Text} (inhabited : id ≠ [])
    {contents : List MsgContent}
    (listed : repository.msgContents.get? id = some contents) {content : MsgContent}
    (member : content ∈ contents) (zero : Text.int content.tagText = some 0)
    (fuel depth : Nat) (loaded : List Orchestra.MessageField) :
    referencesToFields (reread (converted repository)) fuel (links repository id) depth ≠
      .ok loaded := by
  have owner := repository.owned id contents listed content member
  cases wellFormed.resolves id contents listed content member with
  | component name found =>
      rw [name] at zero
      cases zero
  | @field tag field number found =>
      have same : tag = 0 := Option.some.inj (number.symm.trans zero)
      rw [same] at found
      obtain ⟨reference, linked, leads⟩ :=
        link_zero zero found (by rwa [owner])
      rw [owner] at leads
      have known : reference ∈ links repository id := by
        rw [links, listed]
        exact List.mem_filterMap.mpr ⟨content, member, linked⟩
      apply referencesToFields_self known leads
      intro component loadedComponent
      obtain ⟨-, -, -, references⟩ := component_of_loaded loadedComponent
      exact references

theorem contents_settle (depth : Nat) {contents : List MsgContent}
    (resolves : ∀ content ∈ contents, Resolves repository content) :
    ∃ found, Settles (fun fuel => extractContents repository depth
      (extractFields repository fuel) contents) found := by
  obtain ⟨found, -, settles⟩ : ∃ found, (contents ≠ [] → found ≠ []) ∧
      Settles (fun fuel => extractContents repository depth
        (extractFields repository fuel) contents) found := by
    apply extractContents_settles resolves
    intro content member component names
    obtain ⟨inner, expanded⟩ := wellFormed.componentContents component names.mem_values
    exact extractFields_settles wellFormed component.componentID inner expanded (depth + 1)
  exact ⟨found, settles⟩

theorem contents_atMost {fuel depth : Nat} {contents : List MsgContent}
    (resolves : ∀ content ∈ contents, Resolves repository content)
    (zeros : ∀ content ∈ contents, Text.int content.tagText = some 0 →
      content.componentID = [])
    (inner : ∀ content ∈ contents, ∀ component, Names repository content component →
      ∀ loaded, referencesToFields (reread (converted repository)) fuel
        (links repository component.componentID) (depth + 1) = .ok loaded →
      ∀ found, Settles (fun fuel => extractFields repository fuel component.componentID
        (depth + 1)) found →
      AtMost loaded.length found.length (∀ other,
        Reaches repository component.componentID other → Truthy repository other)) :
    ∀ loaded, referencesToFields (reread (converted repository)) (fuel + 1)
      (contents.filterMap (link repository)) depth = .ok loaded →
    ∀ found, Settles (fun fuel => extractContents repository depth
      (extractFields repository fuel) contents) found →
    AtMost loaded.length found.length
      (∀ content ∈ contents, TruthyBelow repository content) := by
  induction contents with
  | nil =>
      intro loaded ok found settles
      cases ok
      exact ⟨Nat.zero_le _, fun _ => nofun⟩
  | cons content contents ih =>
      intro loaded ok found settles
      have resolvesLater : ∀ other ∈ contents, Resolves repository other :=
        fun other later => resolves other (List.mem_cons_of_mem _ later)
      obtain ⟨rest, remaining⟩ := contents_settle wellFormed depth resolvesLater
      have most := ih resolvesLater
        (fun other later => zeros other (List.mem_cons_of_mem _ later))
        fun other later => inner other (List.mem_cons_of_mem _ later)
      cases resolves content List.mem_cons_self with
      | @field id field number known =>
          rw [settles.unique (extractContents_field number known remaining),
            List.length_cons, Nat.add_comm]
          by_cases zero : id = 0
          · rw [zero] at number known
            have empty := zeros content List.mem_cons_self number
            rw [List.filterMap_cons_none (link_zero_of_empty number known empty)] at ok
            exact .lose Nat.one_pos (most loaded ok rest remaining)
          · obtain ⟨reference, linked, target, -⟩ := link_field number known zero
            rw [List.filterMap_cons_some linked, referencesToFields_cons,
              referenceToFields_field target (loaded_field known), ok_bind] at ok
            obtain ⟨others, tail, joined⟩ := exists_of_bind_ok ok
            cases joined
            have one : AtMost 1 1 (TruthyBelow repository content) :=
              ⟨le_rfl, fun _ => truthyBelow_of_field number zero⟩
            rw [List.length_append, List.length_singleton]
            exact (one.add (most others tail rest remaining)).mono
              List.forall_mem_cons.mpr
      | @component component name known =>
          have names : Names repository content component := ⟨name, known⟩
          obtain ⟨contents', expanded⟩ :=
            wellFormed.componentContents component names.mem_values
          obtain ⟨fields, inhabited, expands⟩ := extractFields_settles wellFormed
            component.componentID contents' expanded (depth + 1)
          rw [settles.unique (extractContents_component names expands remaining),
            List.length_append]
          by_cases empty : component.componentID = []
          · rw [List.filterMap_cons_none (link_component_of_empty names empty)] at ok
            exact .lose (List.length_pos_iff.mpr inhabited) (most loaded ok rest remaining)
          · obtain ⟨reference, linked, leads⟩ := link_component names empty
            obtain ⟨target, found', references⟩ :=
              loaded_component wellFormed names.mem_values
            rw [List.filterMap_cons_some linked, referencesToFields_cons,
              referenceToFields_leadsTo leads, item, found', ok_bind, references] at ok
            obtain ⟨first, head, joins⟩ := exists_of_bind_ok ok
            obtain ⟨others, tail, joined⟩ := exists_of_bind_ok joins
            cases joined
            have below := inner content List.mem_cons_self component names first head
              fields expands
            have here : AtMost first.length fields.length
                (TruthyBelow repository content) :=
              below.mono (truthyBelow_of_component names empty)
            rw [List.length_append]
            exact (here.add (most others tail rest remaining)).mono
              List.forall_mem_cons.mpr

/-- The loaded orchestration never gives more fields than the repository has, and as
many only if nothing that is reached counts as false. -/
theorem fields_atMost (fuel : Nat) :
    ∀ id contents, repository.msgContents.get? id = some contents → ∀ depth loaded,
      referencesToFields (reread (converted repository)) fuel (links repository id) depth =
        .ok loaded →
      ∀ found, Settles (fun fuel => extractFields repository fuel id depth) found →
        AtMost loaded.length found.length
          (∀ content, Reaches repository id content → Truthy repository content) := by
  induction fuel with
  | zero => nofun
  | succ fuel ih =>
      intro id contents listed depth loaded ok found settles
      have resolves := wellFormed.resolves id contents listed
      have zeros : ∀ content ∈ contents, Text.int content.tagText = some 0 →
          content.componentID = [] := by
        intro content member zero
        rw [repository.owned id contents listed content member]
        by_contra inhabited
        exact referencesToFields_zero wellFormed inhabited listed member zero _ _ _ ok
      obtain ⟨fields, remaining⟩ := contents_settle wellFormed depth resolves
      rw [settles.unique (extractFields_of_contents listed remaining)]
      rw [links, listed, Option.getD_some] at ok
      have most := contents_atMost wellFormed resolves zeros
        (fun content member component names loaded ok found settles => by
          obtain ⟨inner, expanded⟩ :=
            wellFormed.componentContents component names.mem_values
          exact ih component.componentID inner expanded (depth + 1) loaded ok found settles)
        loaded ok fields remaining
      apply most.mono
      intro truthy content reaches
      cases reaches with
      | content other member =>
          cases listed.symm.trans other
          exact (truthy content member).here
      | nested nests reaches =>
          obtain ⟨contents', other, outer, member, component, names, rfl⟩ := nests
          cases listed.symm.trans other
          exact (truthy outer member).below component names content reaches

end disagreement

/-! ### Messages -/

/-- Converting, writing and loading succeeds, and both sides give the same fields of
the message. -/
def Agrees (metadata : List Xml) (repository : Repository) (message : Message) : Prop :=
  ∃ orchestration loaded target found fields,
    convert repository = .ok orchestration ∧
    Orchestra.load (Orchestra.toXml metadata orchestration) = .ok loaded ∧
    loaded.messagesByMsgType.get? message.msgType = some target ∧
    Settles (fun fuel => messageFields repository fuel message) found ∧
    Settles (fun fuel => Orchestra.messageFields loaded fuel target) fields ∧
    List.Forall₂ Matches found fields

section messages

variable {repository : Repository} (wellFormed : repository.WellFormed)
  {message : Message} (member : message ∈ repository.messages) (metadata : List Xml)

include wellFormed member

theorem agrees_of_truthy
    (truthy : ∀ content, Reaches repository message.componentID content →
      Truthy repository content) : Agrees metadata repository message := by
  obtain ⟨contents, listed⟩ := wellFormed.messageContents message member
  obtain ⟨target, known, references⟩ := loaded_message wellFormed member
  obtain ⟨found, fields, extracts, settles, same⟩ :=
    fields_match wellFormed message.componentID contents listed truthy 0
  refine ⟨converted repository, reread (converted repository), target, found, fields,
    convert_ok wellFormed, Orchestra.load_toXml metadata _, known, extracts, ?_, same⟩
  unfold Orchestra.messageFields
  rw [references]
  exact settles

theorem truthy_of_agrees (agrees : Agrees metadata repository message)
    (content : MsgContent) (reaches : Reaches repository message.componentID content) :
    Truthy repository content := by
  obtain ⟨orchestration, loaded, target, found, fields, converts, loads, known, extracts,
    ⟨enough, settles⟩, same⟩ := agrees
  rw [convert_ok wellFormed] at converts
  cases converts
  rw [Orchestra.load_toXml] at loads
  cases loads
  obtain ⟨contents, listed⟩ := wellFormed.messageContents message member
  obtain ⟨target', known', references⟩ := loaded_message wellFormed member
  cases known.symm.trans known'
  have ok := settles enough le_rfl
  unfold Orchestra.messageFields at ok
  rw [references] at ok
  have most := fields_atMost wellFormed enough message.componentID contents listed 0 fields
    ok found extracts
  exact most.whole same.length_eq.symm content reaches

end messages

/-- The fields of a message agree exactly when nothing that it reaches has a tag or a
component id that counts as false. -/
theorem agrees_iff_truthy {repository : Repository} (wellFormed : repository.WellFormed)
    {message : Message} (member : message ∈ repository.messages) (metadata : List Xml) :
    Agrees metadata repository message ↔
      ∀ content, Reaches repository message.componentID content →
        Truthy repository content :=
  ⟨truthy_of_agrees wellFormed member metadata, agrees_of_truthy wellFormed member metadata⟩

def quote (tag : Int) : Repository where
  enums := .empty
  fieldsByTag := .ofValues Field.id
    [⟨tag, "Symbol".toList, "String".toList, none, .empty⟩]
  dataTypes := .empty
  components := .ofValues Component.name
    [⟨"1003".toList, "Common".toList, "Instrument".toList, none, .empty⟩]
  msgContents :=
    (Dict.empty.set "27".toList
      [⟨"27".toList, "Instrument".toList, "1".toList, none, .empty⟩]).set "1003".toList
      [⟨"1003".toList, Text.str tag, "0".toList, none, .empty⟩]
  messages :=
    [⟨"27".toList, "S".toList, "Quote".toList, "Quotation".toList, none, .empty⟩]
  messagesByMsgType := .ofValues Message.msgType
    [⟨"27".toList, "S".toList, "Quote".toList, "Quotation".toList, none, .empty⟩]
  version := "FIX.4.4".toList
  tagged := Dict.indexes_ofValues _ _
  named := Dict.indexes_ofValues _ _
  typed := rfl
  appended := by
    intro id empty
    simp only [Dict.get?_set, Dict.get?_empty] at empty
    split_ifs at empty <;> cases empty
  owned := by
    intro id contents listed content member
    simp only [Dict.get?_set, Dict.get?_empty] at listed
    split_ifs at listed with inner outer
    · cases listed
      rw [List.mem_singleton.mp member]
      exact inner
    · cases listed
      rw [List.mem_singleton.mp member]
      exact outer

section quote

variable {tag : Int}

theorem quote_listed {id : Text} {contents : List MsgContent}
    (listed : (quote tag).msgContents.get? id = some contents) :
    (id = "1003".toList ∧
      contents = [⟨"1003".toList, Text.str tag, "0".toList, none, .empty⟩]) ∨
    (id = "27".toList ∧
      contents = [⟨"27".toList, "Instrument".toList, "1".toList, none, .empty⟩]) := by
  simp only [quote, Dict.get?_set, Dict.get?_empty] at listed
  split_ifs at listed with inner outer
  · cases listed
    exact .inl ⟨inner.symm, rfl⟩
  · cases listed
    exact .inr ⟨outer.symm, rfl⟩

theorem quote_nests {inner outer : Text} (nests : Nests (quote tag) inner outer) :
    inner = "1003".toList ∧ outer = "27".toList := by
  obtain ⟨contents, listed, content, member, component, names, rfl⟩ := nests
  rcases quote_listed listed with ⟨-, rfl⟩ | ⟨same, rfl⟩
  · have number := names.name
    rw [List.mem_singleton.mp member, Text.int_str] at number
    cases number
  · have found := names.found
    rw [List.mem_singleton.mp member] at found
    cases found
    exact ⟨rfl, same⟩

theorem quote_wellFormed : (quote tag).WellFormed := by
  have field : (quote tag).fieldsByTag.get? tag =
      some ⟨tag, "Symbol".toList, "String".toList, none, .empty⟩ := by
    unfold quote
    rw [Dict.get?_ofValues]
    simp
  constructor
  case resolves =>
    intro id contents listed content member
    rcases quote_listed listed with ⟨-, rfl⟩ | ⟨-, rfl⟩
    · rw [List.mem_singleton.mp member]
      exact .field (Text.int_str tag) field
    · rw [List.mem_singleton.mp member]
      exact .component (by decide) rfl
  case componentContents =>
    intro component member
    rw [List.mem_singleton.mp member]
    exact ⟨_, rfl⟩
  case messageContents =>
    intro message member
    rw [List.mem_singleton.mp member]
    exact ⟨_, rfl⟩
  case componentIDs =>
    intro left inside right other _
    rw [List.mem_singleton.mp inside, List.mem_singleton.mp other]
  case msgTypes =>
    intro left inside right other _
    rw [List.mem_singleton.mp inside, List.mem_singleton.mp other]
  case acyclic =>
    intro id cycle
    obtain ⟨next, first, -⟩ := Relation.TransGen.head'_iff.mp cycle
    obtain ⟨before, -, last⟩ := Relation.TransGen.tail'_iff.mp cycle
    have inner := (quote_nests first).1
    have outer := (quote_nests last).2
    exact absurd (inner.symm.trans outer) (by decide)

theorem quote_truthy (nonzero : tag ≠ 0) {id : Text} {content : MsgContent}
    (reaches : Reaches (quote tag) id content) : Truthy (quote tag) content := by
  induction reaches with
  | content listed member =>
      rcases quote_listed listed with ⟨-, rfl⟩ | ⟨-, rfl⟩
      · rw [List.mem_singleton.mp member]
        refine ⟨?_, ?_⟩
        · rw [Text.int_str]
          exact fun same => nonzero (Option.some.inj same)
        · intro component names
          have number := names.name
          rw [Text.int_str] at number
          cases number
      · rw [List.mem_singleton.mp member]
        refine ⟨by decide, ?_⟩
        intro component names
        have found := names.found
        cases found
        nofun
  | nested nests reaches ih => exact ih

end quote

theorem agrees_iff_truthy_quote :
    Agrees [] (quote 55)
      ⟨"27".toList, "S".toList, "Quote".toList, "Quotation".toList, none, .empty⟩ :=
  (agrees_iff_truthy quote_wellFormed (by exact List.mem_singleton_self _) []).mpr
    fun _ reaches => quote_truthy (by decide) reaches

/-- A field with the tag zero is loaded as the component that it is in. -/
theorem zeroTag_disagrees :
    ¬ ∀ (metadata : List Xml) (repository : Repository), repository.WellFormed →
      ∀ message ∈ repository.messages, Agrees metadata repository message := by
  intro claimed
  have agrees := claimed [] (quote 0) quote_wellFormed _ (List.mem_singleton_self _)
  have inner : Nests (quote 0) "1003".toList "27".toList :=
    ⟨_, rfl, _, List.mem_singleton_self _, _, ⟨by decide, rfl⟩, rfl⟩
  have truthy := truthy_of_agrees quote_wellFormed (List.mem_singleton_self _) [] agrees _
    (.nested inner (.content rfl (List.mem_singleton_self _)))
  exact truthy.tag (Text.int_str 0)

end Crocofix.FixRepository
