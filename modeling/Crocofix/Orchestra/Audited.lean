/-
The audit of what a repository was converted to.

The repository is repaired, converted, written and loaded again, and the result is
compared with the repository as it was.  The repair changes only types, which are not
compared, and so every pedigree that is written without loss passes.
-/

import Crocofix.Orchestra.Comparison
import Crocofix.Orchestra.Conversion
import Crocofix.Orchestra.KnownErrors
import Crocofix.Orchestra.RoundTrip

namespace Crocofix.FixRepository

open Orchestra (Failure reread rereadField rereadMessage rereadCodeSet ok_bind)
open Keyed (keys)

/-! ### The repaired repository -/

theorem rename_id (repository : Repository) (field : Field) :
    (rename repository field).id = field.id := by
  unfold rename
  split <;> rfl

theorem rename_name (repository : Repository) (field : Field) :
    (rename repository field).name = field.name := by
  unfold rename
  split <;> rfl

theorem rename_pedigree (repository : Repository) (field : Field) :
    (rename repository field).pedigree = field.pedigree := by
  unfold rename
  split <;> rfl

def renameFound (repository : Repository) (found : MessageField) : MessageField :=
  { found with field := rename repository found.field }

/-- The same contents, which name the same components and tags that are both defined. -/
structure SameContents (repository other : Repository) : Prop where
  tags : ∀ id, (repository.fieldsByTag.get? id).isSome → (other.fieldsByTag.get? id).isSome
  components : other.components = repository.components
  msgContents : other.msgContents = repository.msgContents
  messages : other.messages = repository.messages

section same

variable {repository other : Repository} (same : SameContents repository other)

include same

theorem names_same_iff {content : MsgContent} {component : Component} :
    Names other content component ↔ Names repository content component := by
  constructor
  · intro names
    exact ⟨names.name, same.components ▸ names.found⟩
  · intro names
    exact ⟨names.name, same.components ▸ names.found⟩

theorem nests_same : Nests other = Nests repository := by
  unfold Nests
  simp only [same.msgContents, names_same_iff same]

theorem resolves_same {content : MsgContent} (resolves : Resolves repository content) :
    Resolves other content := by
  cases resolves with
  | @field id field number found =>
      obtain ⟨renamed, known⟩ :=
        Option.isSome_iff_exists.mp (same.tags id (Option.isSome_of_mem found))
      exact .field number known
  | component name found => exact .component name (same.components ▸ found)

theorem wellFormed_same (wellFormed : repository.WellFormed) : other.WellFormed := by
  constructor
  case resolves =>
    intro id contents listed content member
    rw [same.msgContents] at listed
    exact resolves_same same (wellFormed.resolves id contents listed content member)
  case componentContents =>
    rw [same.components, same.msgContents]
    exact wellFormed.componentContents
  case messageContents =>
    rw [same.messages, same.msgContents]
    exact wellFormed.messageContents
  case componentIDs =>
    rw [same.components]
    exact wellFormed.componentIDs
  case msgTypes =>
    rw [same.messages]
    exact wellFormed.msgTypes
  case acyclic =>
    intro id cycle
    rw [nests_same same] at cycle
    exact wellFormed.acyclic id cycle

theorem reaches_of_same {id : Text} {content : MsgContent}
    (reaches : Reaches other id content) : Reaches repository id content := by
  induction reaches with
  | content listed member => exact .content (same.msgContents ▸ listed) member
  | nested nests reaches ih =>
      rw [nests_same same] at nests
      exact .nested nests ih

theorem truthy_same {content : MsgContent} (truthy : Truthy repository content) :
    Truthy other content :=
  ⟨truthy.tag, fun component names =>
    truthy.component component ((names_same_iff same).mp names)⟩

end same

section repaired

variable {repository fixed : Repository} (state : Fixed repository fixed)

include state

theorem sameContents_fixed : SameContents repository fixed where
  tags := by
    intro id known
    rw [fixed_field state, Option.isSome_map]
    exact known
  components := state.components
  msgContents := state.msgContents
  messages := state.messages

theorem wellFormed_fixed (wellFormed : repository.WellFormed) : fixed.WellFormed :=
  wellFormed_same (sameContents_fixed state) wellFormed

theorem truthy_fixed {id : Text}
    (truthy : ∀ content, Reaches repository id content → Truthy repository content)
    (content : MsgContent) (reaches : Reaches fixed id content) : Truthy fixed content := by
  have same := sameContents_fixed state
  exact truthy_same same (truthy content (reaches_of_same same reaches))

theorem extractContents_fixed (depth : Nat)
    {extract extractFixed : Text → Nat → Except Failure (List MessageField)}
    (inner : ∀ id depth, extractFixed id depth =
      (extract id depth).map (List.map (renameFound repository)))
    (contents : List MsgContent) :
    extractContents fixed depth extractFixed contents =
      (extractContents repository depth extract contents).map
        (List.map (renameFound repository)) := by
  induction contents with
  | nil => rfl
  | cons content contents ih =>
      unfold extractContents
      cases Text.int content.tagText with
      | some id =>
          simp only [fixed_field state]
          cases repository.fieldsByTag.get? id with
          | none => rfl
          | some field =>
              simp only [Option.map_some, ih]
              cases extractContents repository depth extract contents with
              | error failure => rfl
              | ok fields => rfl
      | none =>
          simp only [state.components]
          cases repository.components.get? content.tagText with
          | none => rfl
          | some component =>
              simp only [ih, inner]
              cases extract component.componentID (depth + 1) with
              | error failure => rfl
              | ok found =>
                  cases extractContents repository depth extract contents with
                  | error failure => rfl
                  | ok fields => exact congrArg Except.ok (List.map_append).symm

theorem extractFields_fixed (fuel : Nat) : ∀ id depth,
    extractFields fixed fuel id depth =
      (extractFields repository fuel id depth).map (List.map (renameFound repository)) := by
  induction fuel with
  | zero =>
      intro id depth
      rfl
  | succ fuel ih =>
      intro id depth
      unfold extractFields
      rw [state.msgContents]
      cases repository.msgContents.get? id with
      | none => rfl
      | some contents => exact extractContents_fixed state depth ih contents

end repaired

/-! ### Values -/

def Enumerated (repository : Repository) (field : Field) : Prop :=
  (repository.enums.get? field.id).isSome

/-- Code sets go by the names of their fields, and no other field has such a type. -/
structure CodeSetsDistinct (repository : Repository) : Prop where
  names : ∀ left ∈ repository.fieldsByTag.values,
    ∀ right ∈ repository.fieldsByTag.values, Enumerated repository left →
      Enumerated repository right → left.name = right.name → left = right
  types : ∀ field ∈ repository.fieldsByTag.values,
    ∀ other ∈ repository.fieldsByTag.values, ¬ Enumerated repository field →
      Enumerated repository other → field.type ≠ codeSetName other

theorem codeSetName_inj {left right : Field} (same : codeSetName left = codeSetName right) :
    left.name = right.name :=
  List.append_cancel_right same

theorem ne_codeSetName {type : Text} (last : type.getLast? ≠ some 't') (field : Field) :
    type ≠ codeSetName field := by
  rintro rfl
  have suffix : "CodeSet".toList.getLast? = some 't' := by decide
  unfold codeSetName at last
  rw [List.getLast?_append, suffix, Option.some_or] at last
  exact last rfl

theorem codeSetsDistinct_fixed {repository fixed : Repository}
    (state : Fixed repository fixed) (distinct : CodeSetsDistinct repository) :
    CodeSetsDistinct fixed where
  names := by
    intro left inside right other
    obtain ⟨one, first, rfl⟩ := (mem_fixed_values state).mp inside
    obtain ⟨two, second, rfl⟩ := (mem_fixed_values state).mp other
    unfold Enumerated
    rw [state.enums, rename_id, rename_id, rename_name, rename_name]
    intro enumerated listed same
    rw [distinct.names one first two second enumerated listed same]
  types := by
    intro field inside other member
    obtain ⟨one, first, rfl⟩ := (mem_fixed_values state).mp inside
    obtain ⟨two, second, rfl⟩ := (mem_fixed_values state).mp member
    unfold Enumerated
    rw [state.enums, rename_id, rename_id]
    have kept : codeSetName (rename repository two) = codeSetName two := by
      unfold codeSetName
      rw [rename_name]
    rw [kept]
    intro plain enumerated same
    unfold rename at same
    split at same
    · have last : multipleStringValue.getLast? ≠ some 't' := by decide
      exact ne_codeSetName last two same
    · exact distinct.types one first two second plain enumerated same

theorem convertCodeSet_eq_some {repository : Repository} {field : Field}
    {codeSet : Orchestra.CodeSet}
    (converts : convertCodeSet repository field = some codeSet) :
    Enumerated repository field ∧ codeSet.name = codeSetName field := by
  obtain ⟨enum, found, rfl⟩ := Option.map_eq_some_iff.mp converts
  exact ⟨Option.isSome_of_mem found, rfl⟩

section values

variable {repository : Repository} (distinct : CodeSetsDistinct repository) {field : Field}

include distinct

theorem codeSet_eq_of_name :
    ∀ left ∈ repository.fieldsByTag.values.filterMap (convertCodeSet repository),
      ∀ right ∈ repository.fieldsByTag.values.filterMap (convertCodeSet repository),
        left.name = right.name → left = right := by
  intro left inside right other same
  obtain ⟨one, first, converts⟩ := List.mem_filterMap.mp inside
  obtain ⟨two, second, becomes⟩ := List.mem_filterMap.mp other
  obtain ⟨enumerated, named⟩ := convertCodeSet_eq_some converts
  obtain ⟨listed, called⟩ := convertCodeSet_eq_some becomes
  rw [named, called] at same
  have equal := distinct.names one first two second enumerated listed (codeSetName_inj same)
  rw [equal, becomes] at converts
  exact (Option.some.inj converts).symm

variable (member : field ∈ repository.fieldsByTag.values)

include member

theorem loaded_codeSet {codeSet : Orchestra.CodeSet}
    (converts : convertCodeSet repository field = some codeSet) :
    (reread (converted repository)).codeSets.get? (codeSetName field) =
      some (rereadCodeSet codeSet) := by
  have unique := codeSet_eq_of_name distinct
  have listed := List.mem_filterMap.mpr ⟨field, member, converts⟩
  have found := Dict.get?_ofValues_twice (fun codeSet => codeSet) Orchestra.CodeSet.name
    rereadCodeSet Orchestra.CodeSet.name unique unique listed
  rw [List.map_id'] at found
  rw [← (convertCodeSet_eq_some converts).2]
  exact found

theorem no_loaded_codeSet (plain : ¬ Enumerated repository field) :
    (reread (converted repository)).codeSets.get? field.type = none := by
  rw [Option.eq_none_iff_forall_ne_some]
  intro loaded found
  obtain ⟨named, listed⟩ := Dict.key_of_get?_ofValues found
  obtain ⟨codeSet, inside, rfl⟩ := List.mem_map.mp listed
  obtain ⟨other, source, converts⟩ :=
    List.mem_filterMap.mp (Dict.mem_values_ofValues inside)
  obtain ⟨enumerated, called⟩ := convertCodeSet_eq_some converts
  exact distinct.types field member other source plain enumerated
    (named.symm.trans called)

theorem loaded_codes :
    (Orchestra.fieldValues (reread (converted repository))
      (rereadField (convertField repository field))).map
        (fun code => (code.name, code.value)) =
      (fieldValues repository field).map fun value => (value.symbolicName, value.value) := by
  unfold Orchestra.fieldValues fieldValues
  cases enumerated : repository.enums.get? field.id with
  | none =>
      have type : (rereadField (convertField repository field)).type = field.type := by
        change (if (repository.enums.get? field.id).isSome then _ else _) = _
        rw [enumerated]
        rfl
      have plain : ¬ Enumerated repository field := by
        unfold Enumerated
        rw [enumerated]
        nofun
      rw [type, no_loaded_codeSet distinct member plain]
      rfl
  | some enum =>
      have type : (rereadField (convertField repository field)).type = codeSetName field := by
        change (if (repository.enums.get? field.id).isSome then _ else _) = _
        rw [enumerated]
        rfl
      have converts : ∃ codeSet, convertCodeSet repository field = some codeSet ∧
          codeSet.codes = (enum.zipIdx 1).map fun one => convertCode one.1 one.2 := by
        unfold convertCodeSet
        rw [enumerated]
        exact ⟨_, rfl, rfl⟩
      obtain ⟨codeSet, converts, codes⟩ := converts
      rw [type, loaded_codeSet distinct member converts]
      change (codeSet.codes.map _).map _ = enum.map _
      rw [codes, List.map_map, List.map_map]
      conv_rhs => rw [← List.zipIdx_map_fst 1 enum, List.map_map]
      rfl

end values

/-! ### Fields and messages -/

theorem keys_of_matches {found : List MessageField} {loaded : List Orchestra.MessageField}
    (same : List.Forall₂ Matches found loaded) :
    keys (fun one => one.field.id) loaded = keys (fun one => one.field.id) found := by
  induction same with
  | nil => rfl
  | cons first rest ih => rw [Keyed.keys_cons, Keyed.keys_cons, ih, first.id]

section audit

variable {repository fixed : Repository} (state : Fixed repository fixed)

include state

theorem loaded_fixed_field {id : Int} {field : Field}
    (found : repository.fieldsByTag.get? id = some field) :
    (reread (converted fixed)).fieldsByTag.get? id =
      some (rereadField (convertField fixed (rename repository field))) := by
  apply loaded_field
  rw [fixed_field state, found]
  rfl

theorem loaded_fixed_codes (distinct : CodeSetsDistinct repository) {field : Field}
    (member : field ∈ repository.fieldsByTag.values) :
    (Orchestra.fieldValues (reread (converted fixed))
      (rereadField (convertField fixed (rename repository field)))).map
        (fun code => (code.name, code.value)) =
      (fieldValues repository field).map fun value => (value.symbolicName, value.value) := by
  have inside := (mem_fixed_values state).mpr ⟨field, member, rfl⟩
  rw [loaded_codes (codeSetsDistinct_fixed state distinct) inside]
  unfold fieldValues
  rw [state.enums, rename_id]

theorem loaded_fixed_values (distinct : CodeSetsDistinct repository) {field : Field}
    (member : field ∈ repository.fieldsByTag.values) :
    keys Orchestra.Code.value (Orchestra.fieldValues (reread (converted fixed))
      (rereadField (convertField fixed (rename repository field)))) =
        keys Enum.value (fieldValues repository field) := by
  have codes := congrArg (keys Prod.snd) (loaded_fixed_codes state distinct member)
  rwa [Keyed.keys_map, Keyed.keys_map] at codes

theorem fieldAgrees_iff (distinct : CodeSetsDistinct repository) {field : Field}
    (member : field ∈ repository.fieldsByTag.values) :
    FixAudit.FieldAgrees repository (reread (converted fixed)) field
      (rereadField (convertField fixed (rename repository field))) ↔
        field.pedigree.Kept := by
  have pedigree : (rereadField (convertField fixed (rename repository field))).pedigree =
      Orchestra.rereadPedigree field.pedigree := by
    rw [← rename_pedigree repository field]
    rfl
  rw [← Orchestra.rereadPedigree_eq_iff, ← pedigree]
  constructor
  · exact FixAudit.FieldAgrees.pedigree
  · intro same
    exact ⟨rename_name repository field, same,
      congrArg Finset.card (loaded_fixed_values state distinct member)⟩

theorem fieldErrors_iff (distinct : CodeSetsDistinct repository) :
    (repository.fieldsByTag.entries.map fun (id, field) =>
      FixAudit.compareField repository (reread (converted fixed)) id field).flatMap
        Prod.fst = [] ↔
      ∀ field ∈ repository.fieldsByTag.values, field.pedigree.Kept := by
  rw [FixAudit.fieldErrors_flatMap_eq_nil_iff]
  constructor
  · intro agrees field member
    have found := repository.tagged.get?_of_mem member
    exact (fieldAgrees_iff state distinct member).mp
      (agrees field.id field _ found (loaded_fixed_field state found))
  · intro kept id field other found loaded
    have member := (Dict.mem_values_iff _ field).mpr ⟨id, found⟩
    rw [loaded_fixed_field state found] at loaded
    rw [← Option.some.inj loaded]
    exact (fieldAgrees_iff state distinct member).mpr (kept field member)

theorem compareField_notices (distinct : CodeSetsDistinct repository) {id : Int}
    {field : Field} (found : repository.fieldsByTag.get? id = some field) :
    (FixAudit.compareField repository (reread (converted fixed)) id field).2 = [] := by
  have member := (Dict.mem_values_iff _ field).mpr ⟨id, found⟩
  exact FixAudit.compareField_snd_eq_nil_iff.mpr
    ⟨_, loaded_fixed_field state found, loaded_fixed_values state distinct member⟩

theorem message_of_loaded {msgType : Text} {other : Orchestra.Message}
    (found : (reread (converted fixed)).messagesByMsgType.get? msgType = some other) :
    ∃ message, repository.messagesByMsgType.get? msgType = some message ∧
      rereadMessage (convertedMessage fixed message) = other := by
  obtain ⟨message, member, same, keyed⟩ := Dict.mem_of_get?_ofValues_twice found
  rw [state.messagesByMsgType, repository.typed] at member
  have known := (Dict.indexes_ofValues _ _).get?_of_mem member
  have type : message.msgType = msgType := by
    rw [← keyed, ← same]
    rfl
  rw [← repository.typed, type] at known
  exact ⟨message, known, same⟩

theorem loaded_of_message (wellFormed : repository.WellFormed) {msgType : Text}
    {message : Message} (known : repository.messagesByMsgType.get? msgType = some message) :
    (reread (converted fixed)).messagesByMsgType.get? msgType =
      some (rereadMessage (convertedMessage fixed message)) := by
  rw [repository.typed] at known
  obtain ⟨type, member⟩ := Dict.key_of_get?_ofValues known
  rw [← state.messages] at member
  obtain ⟨loaded, found, -⟩ := loaded_message (wellFormed_fixed state wellFormed) member
  obtain ⟨one, listed, same⟩ := message_of_loaded state found
  rw [repository.typed, type, known] at listed
  rw [← type, found, ← same, Option.some.inj listed]

theorem message_fields_settle (wellFormed : repository.WellFormed) {message : Message}
    (member : message ∈ repository.messages)
    (truthy : ∀ content, Reaches repository message.componentID content →
      Truthy repository content) :
    ∃ found loaded,
      Settles (fun fuel => messageFields repository fuel message) found ∧
      Settles (fun fuel => Orchestra.messageFields (reread (converted fixed)) fuel
        (rereadMessage (convertedMessage fixed message))) loaded ∧
      keys (fun one => one.field.id) loaded = keys (fun one => one.field.id) found := by
  obtain ⟨contents, listed⟩ := wellFormed.messageContents message member
  obtain ⟨found, -, extracts⟩ :=
    extractFields_settles wellFormed message.componentID contents listed 0
  rw [← state.msgContents] at listed
  obtain ⟨renamed, loaded, settles, follows, same⟩ :=
    fields_match (wellFormed_fixed state wellFormed) message.componentID contents listed
      (truthy_fixed state truthy) 0
  have expected : Settles (fun fuel => extractFields fixed fuel message.componentID 0)
      (found.map (renameFound repository)) := by
    simp only [extractFields_fixed state]
    exact extracts.map _
  rw [settles.unique expected] at same
  refine ⟨found, loaded, extracts, ?_, ?_⟩
  · unfold Orchestra.messageFields
    change Settles (fun fuel => Orchestra.referencesToFields _ fuel
      ((references fixed message.componentID).filterMap Orchestra.rereadReference) 0) _
    rw [filterMap_rereadReference]
    exact follows
  · rw [keys_of_matches same, Keyed.keys_map]
    simp only [renameFound, rename_id]

theorem compareMessage_settles (wellFormed : repository.WellFormed) {msgType : Text}
    {message : Message} (known : repository.messagesByMsgType.get? msgType = some message)
    (truthy : ∀ content, Reaches repository message.componentID content →
      Truthy repository content) :
    ∃ errors, Settles (fun fuel => FixAudit.compareMessage repository
      (reread (converted fixed)) fuel msgType
        (rereadMessage (convertedMessage fixed message))) errors ∧
      (errors = [] ↔ message.pedigree.Kept) := by
  have member : message ∈ repository.messages := by
    rw [repository.typed] at known
    exact (Dict.key_of_get?_ofValues known).2
  obtain ⟨found, loaded, extracts, follows, same⟩ :=
    message_fields_settle state wellFormed member truthy
  refine ⟨FixAudit.messageErrors msgType message
    (rereadMessage (convertedMessage fixed message))
      (loaded.map Orchestra.MessageField.field) (found.map MessageField.field), ?_, ?_⟩
  · simp only [FixAudit.compareMessage, Orchestra.item, known, ok_bind]
    exact follows.bind (extracts.bind (settles_ok _))
  · rw [FixAudit.messageErrors_eq_nil_iff, ← Orchestra.rereadPedigree_eq_iff]
    constructor
    · exact FixAudit.MessageAgrees.pedigree
    · intro pedigree
      exact ⟨rfl, pedigree, same⟩

/-- Every message settles, and its errors tell whether its pedigree is kept. -/
theorem messages_settle (wellFormed : repository.WellFormed)
    (truthy : ∀ message ∈ repository.messages, ∀ content,
      Reaches repository message.componentID content → Truthy repository content) :
    ∃ errors : Text × Orchestra.Message → List FixAudit.MessageError,
      Settles (fun fuel => (reread (converted fixed)).messagesByMsgType.entries.mapM
        fun (msgType, other) => FixAudit.compareMessage repository (reread (converted fixed))
          fuel msgType other)
        ((reread (converted fixed)).messagesByMsgType.entries.map errors) ∧
      ∀ msgType message, repository.messagesByMsgType.get? msgType = some message →
        (errors (msgType, rereadMessage (convertedMessage fixed message)) = [] ↔
          message.pedigree.Kept) := by
  have each : ∀ entry : Text × Orchestra.Message, ∃ errors,
      ∀ message, repository.messagesByMsgType.get? entry.1 = some message →
        rereadMessage (convertedMessage fixed message) = entry.2 →
          Settles (fun fuel => FixAudit.compareMessage repository (reread (converted fixed))
            fuel entry.1 entry.2) errors ∧ (errors = [] ↔ message.pedigree.Kept) := by
    rintro ⟨msgType, other⟩
    by_cases known : ∃ message, repository.messagesByMsgType.get? msgType = some message ∧
        rereadMessage (convertedMessage fixed message) = other
    · obtain ⟨message, found, rfl⟩ := known
      have member : message ∈ repository.messages := by
        rw [repository.typed] at found
        exact (Dict.key_of_get?_ofValues found).2
      obtain ⟨errors, settles, kept⟩ :=
        compareMessage_settles state wellFormed found (truthy message member)
      refine ⟨errors, ?_⟩
      intro one listed _
      cases found.symm.trans listed
      exact ⟨settles, kept⟩
    · exact ⟨[], fun message found same => absurd ⟨message, found, same⟩ known⟩
  choose errors each using each
  refine ⟨errors, settles_mapM ?_, ?_⟩
  · rintro ⟨msgType, other⟩ member
    obtain ⟨message, known, same⟩ :=
      message_of_loaded state ((Dict.mem_entries_iff _ msgType other).mp member)
    exact (each (msgType, other) message known same).1
  · intro msgType message known
    exact (each (msgType, rereadMessage (convertedMessage fixed message)) message known rfl).2

theorem messageErrors_iff (wellFormed : repository.WellFormed)
    {errors : Text × Orchestra.Message → List FixAudit.MessageError}
    (kept : ∀ msgType message, repository.messagesByMsgType.get? msgType = some message →
      (errors (msgType, rereadMessage (convertedMessage fixed message)) = [] ↔
        message.pedigree.Kept)) :
    ((reread (converted fixed)).messagesByMsgType.entries.map errors).flatten = [] ↔
      ∀ message ∈ repository.messagesByMsgType.values, message.pedigree.Kept := by
  rw [List.flatten_eq_nil_iff, List.forall_mem_map]
  constructor
  · intro none message member
    obtain ⟨msgType, known⟩ := (Dict.mem_values_iff _ message).mp member
    have loaded := loaded_of_message state wellFormed known
    exact (kept msgType message known).mp
      (none _ ((Dict.mem_entries_iff _ msgType _).mpr loaded))
  · rintro all ⟨msgType, other⟩ member
    obtain ⟨message, known, rfl⟩ :=
      message_of_loaded state ((Dict.mem_entries_iff _ msgType other).mp member)
    exact (kept msgType message known).mpr
      (all message ((Dict.mem_values_iff _ message).mpr ⟨msgType, known⟩))

end audit

/-- What is converted and loaded again differs from the repository in nothing but the
pedigrees with an empty text in them. -/
theorem converted_passes_iff {repository fixed : Repository}
    (fixes : fixKnownErrors repository = .ok fixed) (wellFormed : repository.WellFormed)
    (distinct : CodeSetsDistinct repository)
    (truthy : ∀ message ∈ repository.messages, ∀ content,
      Reaches repository message.componentID content → Truthy repository content)
    (metadata : List Orchestra.Xml) :
    ∃ target orchestration comparison, convert fixed = .ok target ∧
      Orchestra.load (Orchestra.toXml metadata target) = .ok orchestration ∧
      Settles (FixAudit.compareRepositoryWithOrchestration repository orchestration)
        comparison ∧
      comparison.notices = [] ∧
      (comparison.passes ↔
        (∀ field ∈ repository.fieldsByTag.values, field.pedigree.Kept) ∧
        ∀ message ∈ repository.messagesByMsgType.values, message.pedigree.Kept) := by
  have state := fixed_of_fixKnownErrors fixes
  obtain ⟨errors, settles, kept⟩ := messages_settle state wellFormed truthy
  refine ⟨converted fixed, reread (converted fixed), _,
    convert_ok (wellFormed_fixed state wellFormed), Orchestra.load_toXml metadata _,
    settles.bind (settles_ok _), ?_, ?_⟩
  · rw [List.flatMap_eq_nil_iff, List.forall_mem_map]
    rintro ⟨id, field⟩ member
    exact compareField_notices state distinct ((Dict.mem_entries_iff _ id field).mp member)
  · unfold FixAudit.Comparison.passes
    rw [Bool.and_eq_true, List.isEmpty_iff, List.isEmpty_iff,
      fieldErrors_iff state distinct, messageErrors_iff state wellFormed kept]

def symbols : Repository :=
  { quote 55 with
    dataTypes := .ofValues DataType.name [⟨"String".toList, none, none, .empty⟩] }

theorem symbols_same : SameContents (quote 55) symbols := ⟨fun _ known => known, rfl, rfl, rfl⟩

theorem symbols_wellFormed : symbols.WellFormed := wellFormed_same symbols_same quote_wellFormed

theorem symbols_distinct : CodeSetsDistinct symbols where
  names := by
    intro left _ right _ enumerated
    cases enumerated
  types := by
    intro field _ other _ _ enumerated
    cases enumerated

theorem symbols_truthy {id : Text} {content : MsgContent} (reaches : Reaches symbols id content) :
    Truthy symbols content :=
  truthy_same symbols_same (quote_truthy (by decide) (reaches_of_same symbols_same reaches))

theorem converted_passes_iff_symbols :
    ∃ target orchestration comparison, convert symbols = .ok target ∧
      Orchestra.load (Orchestra.toXml [] target) = .ok orchestration ∧
      Settles (FixAudit.compareRepositoryWithOrchestration symbols orchestration)
        comparison ∧ comparison.passes := by
  have fixes : fixKnownErrors symbols = .ok symbols := rfl
  obtain ⟨target, orchestration, comparison, converts, loads, settles, -, passes⟩ :=
    converted_passes_iff fixes symbols_wellFormed symbols_distinct
      (fun _ _ _ reaches => symbols_truthy reaches) []
  refine ⟨target, orchestration, comparison, converts, loads, settles, passes.mpr ⟨?_, ?_⟩⟩
  · intro field member
    rw [List.mem_singleton.mp member]
    exact Orchestra.Pedigree.kept_empty
  · intro message member
    rw [List.mem_singleton.mp member]
    exact Orchestra.Pedigree.kept_empty

end Crocofix.FixRepository
