/-
What loading a written orchestration gives.

Every piece of the model is written on its own and loaded on its own, and what is
loaded depends on that piece only, but for a code, which gets the pedigree of its
code set.
-/

import Mathlib.Data.List.ReduceOption
import Crocofix.Orchestra.Orchestration

namespace Crocofix.Orchestra

def rereadPedigree (pedigree : Pedigree) : Pedigree where
  added := truthy pedigree.added
  addedEP := truthy pedigree.addedEP
  updated := truthy pedigree.updated
  updatedEP := truthy pedigree.updatedEP
  deprecated := truthy pedigree.deprecated
  deprecatedEP := truthy pedigree.deprecatedEP

def Pedigree.empty : Pedigree := ⟨none, none, none, none, none, none⟩

def rereadSynopsis (synopsis : Option Text) : Option Text :=
  some (Text.strip (synopsis.getD []))

def rereadDataType (source : DataType) : DataType where
  name := source.name
  baseType := truthy source.baseType
  synopsis := rereadSynopsis source.synopsis
  pedigree := rereadPedigree source.pedigree

def rereadCode (source : CodeSet) (sourceCode : Code) : Code where
  id := .text sourceCode.id.str
  name := sourceCode.name
  value := sourceCode.value
  synopsis := rereadSynopsis sourceCode.synopsis
  pedigree := rereadPedigree source.pedigree

def rereadCodeSet (source : CodeSet) : CodeSet where
  id := .text source.id.str
  name := source.name
  type := source.type
  synopsis := rereadSynopsis source.synopsis
  pedigree := Pedigree.empty
  codes := source.codes.map (rereadCode source)

def rereadField (source : Field) : Field where
  id := source.id
  name := source.name
  type := source.type
  synopsis := rereadSynopsis source.synopsis
  pedigree := rereadPedigree source.pedigree

def rereadAs (reference : Reference) (fieldId : Option Int) (componentId : Option Id) :
    Reference where
  fieldId := fieldId
  groupId := none
  componentId := componentId
  presence := truthy reference.presence
  synopsis := rereadSynopsis reference.synopsis
  pedigree := rereadPedigree reference.pedigree

def rereadReference (reference : Reference) : Option Reference :=
  match reference.field? with
  | some id => some (rereadAs reference (some id) none)
  | none => reference.component?.map fun id =>
      rereadAs reference none (some (.text id.str))

def rereadComponent (source : Component) : Component where
  id := .text source.id.str
  name := source.name
  category := source.category
  synopsis := rereadSynopsis source.synopsis
  pedigree := rereadPedigree source.pedigree
  references := source.references.filterMap rereadReference

def rereadMessage (source : Message) : Message where
  id := .text source.id.str
  name := source.name
  msgType := source.msgType
  category := source.category
  synopsis := rereadSynopsis source.synopsis
  pedigree := rereadPedigree source.pedigree
  references := source.references.filterMap rereadReference

def reread (orchestration : Orchestration) : Orchestration where
  dataTypes := .ofValues DataType.name (orchestration.dataTypes.values.map rereadDataType)
  codeSets := .ofValues CodeSet.name (orchestration.codeSets.values.map rereadCodeSet)
  fieldsByTag := .ofValues Field.id (orchestration.fieldsByTag.values.map rereadField)
  components :=
    .ofValues Component.id (orchestration.components.values.map rereadComponent)
  groups := .empty
  messages :=
    .ofValues Message.id (orchestration.messagesByMsgType.values.map rereadMessage)
  messagesByMsgType :=
    .ofValues Message.msgType (orchestration.messagesByMsgType.values.map rereadMessage)
  version := []

/-! ### Attributes and annotations -/

theorem ok_bind {α β : Type} (value : α) (next : α → Except Failure β) :
    (Except.ok value >>= next) = next value := rfl

theorem mapM_ok {α β : Type} {read : α → Except Failure β} {value : α → β}
    {items : List α} (each : ∀ item ∈ items, read item = .ok (value item)) :
    items.mapM read = .ok (items.map value) := by
  induction items with
  | nil => rfl
  | cons item rest ih =>
      rw [List.mapM_cons, each item List.mem_cons_self, ok_bind,
        ih fun other later => each other (List.mem_cons_of_mem _ later)]
      rfl

theorem mapM_map_ok {α β : Type} {create : α → Xml} {read : Xml → Except Failure β}
    {value : α → β} (each : ∀ item, read (create item) = .ok (value item))
    (items : List α) : (items.map create).mapM read = .ok (items.map value) := by
  rw [List.mapM_map]
  exact mapM_ok fun item _ => each item

theorem findall_map {α : Type} (create : α → Xml) (tag : Tag)
    (tagged : ∀ item, (create item).tag = tag) (outer : Tag) (attrib : Attributes)
    (items : List α) :
    (Element.mk outer attrib none (items.map create)).findall tag =
      items.map create := by
  apply Element.findall_of_forall
  intro child member
  obtain ⟨item, -, rfl⟩ := List.mem_map.mp member
  exact tagged item

theorem get_mk (tag : Tag) (attrib : Attributes) (text : Option Text)
    (children : List Xml) (key : Attribute) :
    (Element.mk tag attrib text children).get key = attrib.get? key := rfl

/-- The pedigree attributes that `populateXmlPedigree` sets, and no others, change. -/
theorem get?_populateXmlPedigree (attrib : Attributes) (pedigree : Pedigree)
    (key : Attribute) :
    (populateXmlPedigree attrib pedigree).get? key =
      match key with
      | .added => (truthy pedigree.added).or (attrib.get? key)
      | .addedEP => (truthy pedigree.addedEP).or (attrib.get? key)
      | .updated => (truthy pedigree.updated).or (attrib.get? key)
      | .updatedEP => (truthy pedigree.updatedEP).or (attrib.get? key)
      | .deprecated => (truthy pedigree.deprecated).or (attrib.get? key)
      | .deprecatedEP => (truthy pedigree.deprecatedEP).or (attrib.get? key)
      | _ => attrib.get? key := by
  unfold populateXmlPedigree
  cases key <;> simp

theorem getD_of_truthy_none {value : Option Text} (false : truthy value = none) :
    value.getD [] = [] := by
  cases value with
  | none => rfl
  | some text =>
      by_contra inhabited
      have kept : truthy (some text) = some text := by simpa [truthy] using inhabited
      rw [kept] at false
      cases false

theorem eq_of_truthy_some {value : Option Text} {text : Text}
    (true : truthy value = some text) : value = some text :=
  (Option.filter_eq_some_iff.mp true).1

/-- The synopsis is the one in the only annotation, wherever it stands. -/
theorem synopses_annotated (tag : Tag) (attrib : Attributes) {front : List Xml}
    (absent : ∀ child ∈ front, child.tag ≠ .annotationElement) (documents : List Xml) :
    synopses (.mk tag attrib none (front ++ [annotate documents])) =
      ((annotate documents).findall .documentation).filter fun documentation =>
        documentation.get .purpose = some synopsisPurpose := by
  unfold synopses
  rw [Element.findall_append,
    Element.findall_of_absent (.mk tag attrib none front) absent,
    List.nil_append]
  simp [Element.findall, annotate]

theorem extractSynopsis_documentation (tag : Tag) (attrib : Attributes)
    (front : List Xml) (absent : ∀ child ∈ front, child.tag ≠ .annotationElement)
    (synopsis : Option Text) :
    some (extractSynopsis
      (.mk tag attrib none (front ++ [annotate [documentation synopsis]]))) =
        rereadSynopsis synopsis := by
  have one : ((annotate [documentation synopsis]).findall .documentation).filter
      (fun documentation => documentation.get .purpose = some synopsisPurpose) =
        [documentation synopsis] := by
    simp [Element.findall, annotate, documentation, Element.get]
  unfold extractSynopsis
  rw [synopses_annotated tag attrib absent, one]
  rfl

theorem extractSynopsis_annotationIf (tag : Tag) (attrib : Attributes)
    (front : List Xml) (absent : ∀ child ∈ front, child.tag ≠ .annotationElement)
    (synopsis : Option Text) :
    some (extractSynopsis (.mk tag attrib none (front ++ annotationIf synopsis))) =
      rereadSynopsis synopsis := by
  unfold annotationIf
  cases written : truthy synopsis with
  | none =>
      have unannotated : synopses (.mk tag attrib none (front ++ [])) = [] := by
        unfold synopses
        rw [Element.findall_append,
          Element.findall_of_absent (.mk tag attrib none front) absent]
        rfl
      unfold extractSynopsis rereadSynopsis
      rw [unannotated, getD_of_truthy_none written]
      rfl
  | some text =>
      rw [eq_of_truthy_some written]
      exact extractSynopsis_documentation tag attrib front absent (some text)

theorem extractSynopsis_field (attrib : Attributes) (synopsis : Option Text) :
    some (extractSynopsis (.mk .field attrib none
      [annotate (((truthy synopsis).map fun text =>
        documentation (some text)).toList)])) = rereadSynopsis synopsis := by
  have absent : ∀ child ∈ ([] : List Xml), child.tag ≠ .annotationElement := nofun
  cases written : truthy synopsis with
  | none =>
      unfold extractSynopsis rereadSynopsis
      rw [← List.nil_append [_], synopses_annotated .field attrib absent,
        getD_of_truthy_none written]
      rfl
  | some text =>
      rw [eq_of_truthy_some written]
      exact extractSynopsis_documentation .field attrib [] absent (some text)

/-! ### Pieces -/

theorem loadDataType_create (source : DataType) :
    loadDataType (createXmlDataType source) = .ok (rereadDataType source) := by
  have synopsis : some (extractSynopsis (createXmlDataType source)) =
      rereadSynopsis source.synopsis :=
    extractSynopsis_annotationIf .datatype _ [] nofun source.synopsis
  unfold loadDataType
  rw [synopsis]
  simp [createXmlDataType, require, get_mk, get?_populateXmlPedigree, extractPedigree,
    rereadDataType, rereadPedigree]

theorem loadCode_create (source : CodeSet) (sourceCode : Code) :
    loadCode (createXmlCode source sourceCode) = .ok (rereadCode source sourceCode) := by
  have synopsis : some (extractSynopsis (createXmlCode source sourceCode)) =
      rereadSynopsis sourceCode.synopsis :=
    extractSynopsis_documentation .code _ [] nofun sourceCode.synopsis
  unfold loadCode
  rw [synopsis]
  simp [createXmlCode, require, get_mk, get?_populateXmlPedigree, extractPedigree,
    rereadCode, rereadPedigree, ok_bind]

theorem loadField_create (source : Field) :
    loadField (createXmlField source) = .ok (rereadField source) := by
  have synopsis : some (extractSynopsis (createXmlField source)) =
      rereadSynopsis source.synopsis :=
    extractSynopsis_field _ source.synopsis
  unfold loadField
  rw [synopsis]
  simp [createXmlField, requireInt, require, get_mk, get?_populateXmlPedigree,
    extractPedigree, rereadField, rereadPedigree, ok_bind, Text.int_str]

theorem loadReference_create (tag : Tag) (id : Text) (reference : Reference)
    (fieldId : Option Int) (componentId : Option Id) :
    loadReference (createXmlRef tag id reference) fieldId none componentId =
      rereadAs reference fieldId componentId := by
  have synopsis : some (extractSynopsis (createXmlRef tag id reference)) =
      rereadSynopsis reference.synopsis :=
    extractSynopsis_annotationIf tag _ [] nofun reference.synopsis
  unfold loadReference
  rw [synopsis]
  simp [createXmlRef, get_mk, get?_populateXmlPedigree, extractPedigree, rereadAs,
    rereadPedigree]

theorem tag_createXmlRef (tag : Tag) (id : Text) (reference : Reference) :
    (createXmlRef tag id reference).tag = tag := rfl

theorem get_id_createXmlRef (tag : Tag) (id : Text) (reference : Reference) :
    (createXmlRef tag id reference).get .id = some id := by
  simp [createXmlRef, get_mk, get?_populateXmlPedigree]

theorem extractReference_create {reference : Reference} {element : Xml}
    (created : createXmlReference reference = some element) :
    ∃ loaded, rereadReference reference = some loaded ∧
      extractReference element = .ok (some loaded) := by
  unfold createXmlReference at created
  unfold rereadReference
  cases field : reference.field? with
  | some id =>
      rw [field] at created
      cases created
      refine ⟨_, rfl, ?_⟩
      rw [← loadReference_create .fieldRef (Text.str id)]
      simp only [extractReference, tag_createXmlRef, requireInt, require,
        get_id_createXmlRef, ok_bind, Text.int_str]
      rfl
  | none =>
      rw [field] at created
      cases component : reference.component? with
      | none =>
          rw [component] at created
          cases created
      | some id =>
          rw [component] at created
          cases created
          refine ⟨rereadAs reference none (some (.text id.str)), rfl, ?_⟩
          rw [← loadReference_create .componentRef id.str]
          simp only [extractReference, tag_createXmlRef, get_id_createXmlRef]
          rfl

theorem rereadReference_of_not_created {reference : Reference}
    (uncreated : createXmlReference reference = none) :
    rereadReference reference = none := by
  unfold createXmlReference at uncreated
  unfold rereadReference
  cases field : reference.field? with
  | some id =>
      rw [field] at uncreated
      cases uncreated
  | none =>
      rw [field] at uncreated
      cases component : reference.component? with
      | none => rfl
      | some id =>
          rw [component] at uncreated
          cases uncreated

theorem mapM_extractReference (references : List Reference) :
    (createXmlReferences references).mapM extractReference =
      .ok ((references.filterMap rereadReference).map some) := by
  unfold createXmlReferences
  induction references with
  | nil => rfl
  | cons reference rest ih =>
      cases created : createXmlReference reference with
      | none =>
          rw [List.filterMap_cons_none created,
            List.filterMap_cons_none (rereadReference_of_not_created created)]
          exact ih
      | some element =>
          obtain ⟨loaded, kept, read⟩ := extractReference_create created
          rw [List.filterMap_cons_some created, List.filterMap_cons_some kept,
            List.mapM_cons, read, ok_bind, ih]
          rfl

theorem extractReferences_create (tag : Tag) (attrib : Attributes)
    (references : List Reference) (synopsis : Option Text) :
    extractReferences
      (.mk tag attrib none (createXmlReferences references ++ annotationIf synopsis)) =
        .ok (references.filterMap rereadReference) := by
  have kept (loaded : List Reference) : (loaded.map some).reduceOption = loaded := by
    simp [List.reduceOption, List.filterMap_map]
  unfold extractReferences annotationIf
  rw [Element.children_mk, List.mapM_append, mapM_extractReference, ok_bind]
  cases truthy synopsis with
  | none =>
      rw [List.mapM_nil]
      change Except.ok (List.reduceOption (_ ++ [])) = _
      rw [List.append_nil, kept]
  | some text =>
      have skipped : extractReference (annotate [documentation (some text)]) =
          .ok none := rfl
      rw [List.mapM_cons, skipped, ok_bind, List.mapM_nil]
      change Except.ok (List.reduceOption (_ ++ [none])) = _
      rw [List.reduceOption_append, kept]
      change Except.ok (_ ++ []) = _
      rw [List.append_nil]

theorem unannotated_references {references : List Reference} :
    ∀ child ∈ createXmlReferences references, child.tag ≠ .annotationElement := by
  intro child member
  obtain ⟨reference, -, created⟩ := List.mem_filterMap.mp member
  unfold createXmlReference at created
  split at created
  · cases created
    nofun
  · split at created
    · cases created
      nofun
    · cases created

theorem loadComponent_create (source : Component) :
    loadComponent (createXmlComponent source) = .ok (rereadComponent source) := by
  have synopsis : some (extractSynopsis (createXmlComponent source)) =
      rereadSynopsis source.synopsis :=
    extractSynopsis_annotationIf .component _ _ unannotated_references source.synopsis
  have references : extractReferences (createXmlComponent source) =
      .ok (source.references.filterMap rereadReference) :=
    extractReferences_create .component _ source.references source.synopsis
  unfold loadComponent
  rw [synopsis, references]
  simp [createXmlComponent, require, get_mk, get?_populateXmlPedigree, extractPedigree,
    rereadComponent, rereadPedigree, ok_bind]

theorem loadMessage_create (source : Message) :
    loadMessage (createXmlMessage source) = .ok (rereadMessage source) := by
  have synopsis : some (extractSynopsis (createXmlMessage source)) =
      rereadSynopsis source.synopsis := by
    apply extractSynopsis_annotationIf .message _ [_]
    intro child member
    rw [List.mem_singleton.mp member]
    nofun
  have references := extractReferences_create .messageStructure Dict.empty source.references none
  have unannotated : annotationIf none = [] := rfl
  rw [unannotated, List.append_nil] at references
  have structured : requireChild (createXmlMessage source) .messageStructure =
      .ok (.mk .messageStructure Dict.empty none (createXmlReferences source.references)) := rfl
  unfold loadMessage
  rw [structured, ok_bind, synopsis, references]
  simp [createXmlMessage, require, get_mk, get?_populateXmlPedigree, extractPedigree,
    rereadMessage, rereadPedigree, ok_bind]

theorem loadCodeSet_create (source : CodeSet) :
    loadCodeSet (createXmlCodeSet source) = .ok (rereadCodeSet source) := by
  have synopsis : some (extractSynopsis (createXmlCodeSet source)) =
      rereadSynopsis source.synopsis := by
    apply extractSynopsis_annotationIf .codeSet
    intro child member
    obtain ⟨code, -, rfl⟩ := List.mem_map.mp member
    nofun
  have unannotated (attrib : Attributes) :
      (Element.mk .codeSet attrib none (annotationIf source.synopsis)).findall .code =
        [] := by
    unfold annotationIf
    cases truthy source.synopsis with
    | none => rfl
    | some text => rfl
  have found : (createXmlCodeSet source).findall .code =
      source.codes.map (createXmlCode source) := by
    unfold createXmlCodeSet
    rw [Element.findall_append, findall_map (createXmlCode source) .code fun _ => rfl,
      unannotated, List.append_nil]
  unfold loadCodeSet
  rw [synopsis, found, mapM_map_ok (loadCode_create source), ok_bind]
  simp [createXmlCodeSet, require, get_mk, extractPedigree, rereadCodeSet,
    Pedigree.empty, ok_bind]

/-! ### Documents -/

section document

variable (metadata : List Xml) (orchestration : Orchestration)

theorem loadDataTypes_toXml :
    loadDataTypes (toXml metadata orchestration) = .ok (reread orchestration).dataTypes := by
  have found : requireChild (toXml metadata orchestration) .datatypes =
      .ok (createXmlDataTypes orchestration.dataTypes) := rfl
  unfold loadDataTypes
  rw [found, ok_bind, createXmlDataTypes,
    findall_map createXmlDataType .datatype fun _ => rfl,
    mapM_map_ok loadDataType_create]
  rfl

theorem loadCodeSets_toXml :
    loadCodeSets (toXml metadata orchestration) = .ok (reread orchestration).codeSets := by
  have found : requireChild (toXml metadata orchestration) .codeSets =
      .ok (createXmlCodeSets orchestration.codeSets) := rfl
  unfold loadCodeSets
  rw [found, ok_bind, createXmlCodeSets,
    findall_map createXmlCodeSet .codeSet fun _ => rfl,
    mapM_map_ok loadCodeSet_create]
  rfl

theorem loadFields_toXml :
    loadFields (toXml metadata orchestration) =
      .ok (reread orchestration).fieldsByTag := by
  have found : requireChild (toXml metadata orchestration) .fields =
      .ok (createXmlFields orchestration.fieldsByTag) := rfl
  unfold loadFields
  rw [found, ok_bind, createXmlFields,
    findall_map createXmlField .field fun _ => rfl,
    mapM_map_ok loadField_create]
  rfl

theorem loadComponents_toXml :
    loadComponents (toXml metadata orchestration) =
      .ok (reread orchestration).components := by
  have found : requireChild (toXml metadata orchestration) .components =
      .ok (createXmlComponents orchestration.components) := rfl
  unfold loadComponents
  rw [found, ok_bind, createXmlComponents,
    findall_map createXmlComponent .component fun _ => rfl,
    mapM_map_ok loadComponent_create]
  rfl

theorem loadGroups_toXml :
    loadGroups (toXml metadata orchestration) = .ok (reread orchestration).groups := rfl

theorem loadMessages_toXml :
    loadMessages (toXml metadata orchestration) =
      .ok (orchestration.messagesByMsgType.values.map rereadMessage) := by
  have found : requireChild (toXml metadata orchestration) .messages =
      .ok (createXmlMessages orchestration.messagesByMsgType) := rfl
  unfold loadMessages
  rw [found, ok_bind, createXmlMessages,
    findall_map createXmlMessage .message fun _ => rfl,
    mapM_map_ok loadMessage_create]

/-- Loading a written orchestration never fails. -/
theorem load_toXml :
    load (toXml metadata orchestration) = .ok (reread orchestration) := by
  unfold load
  rw [loadDataTypes_toXml, loadCodeSets_toXml, loadFields_toXml, loadComponents_toXml,
    loadGroups_toXml, loadMessages_toXml]
  rfl

end document

end Crocofix.Orchestra
