/-
The validation of what a repository was converted to.

No reference that is written dangles, and the type of a field is defined as a data
type or as a code set if the repaired repository has all the data types that its
fields refer to.
-/

import Crocofix.Orchestra.Audited

namespace Crocofix.FixRepository

open Orchestra (reread rereadField rereadMessage rereadDataType)
open FixAudit (dataTypeErrors validateOrchestration validateRepository)

/-! ### Data types -/

/-- Data types go by their own names, and no code set has such a name. -/
structure DataTypesNamed (repository : Repository) : Prop where
  indexes : repository.dataTypes.Indexes DataType.name
  codeSets : ∀ field ∈ repository.fieldsByTag.values,
    repository.dataTypes.get? (codeSetName field) = none

theorem missingDataType_codeSetName (field : Field) :
    missingDataType (codeSetName field) = none := by
  unfold missingDataType
  rw [if_neg (ne_codeSetName (by decide) field).symm,
    if_neg (ne_codeSetName (by decide) field).symm,
    if_neg (ne_codeSetName (by decide) field).symm]

theorem dataTypesNamed_fixed {repository fixed : Repository}
    (state : Fixed repository fixed) (named : DataTypesNamed repository) :
    DataTypesNamed fixed where
  indexes := by
    intro name dataType found
    rw [state.dataTypes, Option.or_eq_some_iff] at found
    rcases found with known | ⟨-, new⟩
    · exact named.indexes name dataType known
    · unfold defined at new
      split at new
      · exact name_of_missingDataType new
      · cases new
  codeSets := by
    intro field member
    obtain ⟨source, inside, rfl⟩ := (mem_fixed_values state).mp member
    have kept : codeSetName (rename repository source) = codeSetName source := by
      unfold codeSetName
      rw [rename_name]
    rw [kept, state.dataTypes, named.codeSets source inside]
    unfold defined
    rw [missingDataType_codeSetName, ite_self]
    rfl

theorem dataTypeErrors_eq_nil_iff {δ : Type} {dataTypes : Dict Text δ} {name : δ → Text}
    {baseType : δ → Option Text} {otherwise : Bool} {id : Int} {type : Text} :
    dataTypeErrors dataTypes name baseType otherwise id type = [] ↔
      (∃ dataType, dataTypes.get? type = some dataType ∧
        ∀ base, baseType dataType = some base → (dataTypes.get? base).isSome) ∨
      (dataTypes.get? type = none ∧ otherwise) := by
  unfold dataTypeErrors
  cases dataTypes.get? type with
  | none =>
      cases otherwise with
      | true => exact iff_of_true rfl (.inr ⟨rfl, rfl⟩)
      | false => exact iff_of_false nofun (by simp)
  | some dataType =>
      simp only [Option.some.injEq, exists_eq_left', reduceCtorEq, false_and, or_false]
      cases baseType dataType with
      | none => exact iff_of_true rfl nofun
      | some base =>
          simp only [Option.some.injEq, forall_eq']
          split
          · next known => exact iff_of_true rfl known
          · next unknown => exact iff_of_false nofun unknown

section dataTypes

variable {repository : Repository} (named : DataTypesNamed repository)

include named

theorem loaded_dataType (name : Text) :
    (reread (converted repository)).dataTypes.get? name =
      (repository.dataTypes.get? name).map fun dataType =>
        rereadDataType (convertDataType dataType) := by
  have distinct : ∀ left ∈ repository.dataTypes.values,
      ∀ right ∈ repository.dataTypes.values, left.name = right.name → left = right := by
    intro left inside right other
    exact named.indexes.eq_of_key inside other
  cases known : repository.dataTypes.get? name with
  | some dataType =>
      have member := (Dict.mem_values_iff _ dataType).mpr ⟨name, known⟩
      have found := Dict.get?_ofValues_twice convertDataType Orchestra.DataType.name
        rereadDataType Orchestra.DataType.name distinct distinct member
      rw [← named.indexes name dataType known]
      exact found
  | none =>
      apply Option.eq_none_iff_forall_ne_some.mpr
      intro loaded found
      obtain ⟨dataType, member, rfl, same⟩ := Dict.mem_of_get?_ofValues_twice found
      have present := named.indexes.get?_of_mem member
      change dataType.name = name at same
      rw [same, known] at present
      cases present

theorem loaded_dataTypeErrors (distinct : CodeSetsDistinct repository) {field : Field}
    (member : field ∈ repository.fieldsByTag.values)
    (valid : dataTypeErrors repository.dataTypes DataType.name DataType.baseType false
      field.id field.type = []) :
    dataTypeErrors (reread (converted repository)).dataTypes Orchestra.DataType.name
      Orchestra.DataType.baseType
      ((reread (converted repository)).codeSets.get?
        (convertField repository field).type).isSome
      field.id (convertField repository field).type = [] := by
  rw [dataTypeErrors_eq_nil_iff] at valid ⊢
  by_cases enumerated : Enumerated repository field
  · have type : (convertField repository field).type = codeSetName field :=
      if_pos enumerated
    obtain ⟨enum, values⟩ := Option.isSome_iff_exists.mp enumerated
    have converts : (convertCodeSet repository field).isSome := by
      unfold convertCodeSet
      rw [values]
      rfl
    obtain ⟨codeSet, converts⟩ := Option.isSome_iff_exists.mp converts
    right
    rw [type, loaded_dataType named, named.codeSets field member,
      loaded_codeSet distinct member converts]
    exact ⟨rfl, rfl⟩
  · have type : (convertField repository field).type = field.type := if_neg enumerated
    rcases valid with ⟨dataType, known, base⟩ | ⟨-, ⟨⟩⟩
    left
    rw [type]
    refine ⟨rereadDataType (convertDataType dataType), ?_, ?_⟩
    · rw [loaded_dataType named, known]
      rfl
    · intro name based
      have source : dataType.baseType = some name := Orchestra.eq_of_truthy_some based
      rw [loaded_dataType named, Option.isSome_map]
      exact base name source

end dataTypes

/-! ### References -/

theorem single_of_rereadReference {reference loaded : Orchestra.Reference}
    (kept : Orchestra.rereadReference reference = some loaded) : FixAudit.Single loaded := by
  unfold Orchestra.rereadReference at kept
  split at kept
  · cases kept
    exact .field rfl rfl
  · obtain ⟨id, -, rfl⟩ := Option.map_eq_some_iff.mp kept
    exact .component rfl rfl

section references

variable {repository fixed : Repository} (state : Fixed repository fixed)

include state

theorem visit_settles (wellFormed : repository.WellFormed) {message : Message}
    (member : message ∈ repository.messages)
    (truthy : ∀ content, Reaches repository message.componentID content →
      Truthy repository content) (context : Text) :
    Settles (fun fuel => FixAudit.visitOrchestrationReferences (reread (converted fixed))
      fuel (rereadMessage (convertedMessage fixed message)).references context) [] := by
  obtain ⟨found, loaded, -, ⟨enough, runs⟩, -⟩ :=
    message_fields_settle state wellFormed member truthy
  obtain ⟨inside, messages⟩ := FixAudit.load_single (Orchestra.load_toXml [] (converted fixed))
  refine ⟨enough, ?_⟩
  intro fuel above
  apply (FixAudit.visit_iff inside fuel _ ?_ context 0).mpr ⟨loaded, runs fuel above⟩
  intro reference member
  obtain ⟨source, -, kept⟩ := List.mem_filterMap.mp member
  exact single_of_rereadReference kept

theorem validation_settles (wellFormed : repository.WellFormed)
    (truthy : ∀ message ∈ repository.messages, ∀ content,
      Reaches repository message.componentID content → Truthy repository content) :
    ∃ validation, Settles (validateOrchestration (reread (converted fixed))) validation ∧
      validation.dangling = [] ∧
      validation.dataTypeErrors =
        (reread (converted fixed)).fieldsByTag.values.flatMap fun field =>
          dataTypeErrors (reread (converted fixed)).dataTypes Orchestra.DataType.name
            Orchestra.DataType.baseType
            ((reread (converted fixed)).codeSets.get? field.type).isSome field.id
              field.type := by
  have each : ∀ message ∈ (reread (converted fixed)).messages.values,
      Settles (fun fuel => FixAudit.visitOrchestrationReferences (reread (converted fixed))
        fuel message.references ("message MsgType=".toList ++ message.msgType)) [] := by
    intro loaded member
    obtain ⟨written, inside, rfl⟩ := List.mem_map.mp (Dict.mem_values_ofValues member)
    obtain ⟨message, source, rfl⟩ := List.mem_map.mp (Dict.mem_values_ofValues inside)
    rw [state.messagesByMsgType, repository.typed] at source
    have known := Dict.mem_values_ofValues source
    exact visit_settles state wellFormed known (truthy message known) _
  refine ⟨_, (settles_mapM each).bind (settles_ok _), ?_, rfl⟩
  rw [List.flatten_eq_nil_iff, List.forall_mem_map]
  exact fun _ _ => rfl

end references

/-- What is converted has no dangling reference, and its data types are defined if those
of the repaired repository are. -/
theorem converted_valid {repository fixed : Repository}
    (fixes : fixKnownErrors repository = .ok fixed) (wellFormed : repository.WellFormed)
    (distinct : CodeSetsDistinct repository) (named : DataTypesNamed repository)
    (truthy : ∀ message ∈ repository.messages, ∀ content,
      Reaches repository message.componentID content → Truthy repository content)
    (metadata : List Orchestra.Xml) :
    ∃ target orchestration validation, convert fixed = .ok target ∧
      Orchestra.load (Orchestra.toXml metadata target) = .ok orchestration ∧
      Settles (validateOrchestration orchestration) validation ∧
      validation.dangling = [] ∧
      (validateRepository fixed = [] → validation.dataTypeErrors = []) := by
  have state := fixed_of_fixKnownErrors fixes
  obtain ⟨validation, settles, dangling, errors⟩ :=
    validation_settles state wellFormed truthy
  refine ⟨converted fixed, reread (converted fixed), validation,
    convert_ok (wellFormed_fixed state wellFormed), Orchestra.load_toXml metadata _, settles,
    dangling, ?_⟩
  intro valid
  rw [errors, List.flatMap_eq_nil_iff]
  intro loaded member
  obtain ⟨written, inside, rfl⟩ := List.mem_map.mp (Dict.mem_values_ofValues member)
  obtain ⟨field, source, rfl⟩ := List.mem_map.mp (Dict.mem_values_ofValues inside)
  exact loaded_dataTypeErrors (dataTypesNamed_fixed state named)
    (codeSetsDistinct_fixed state distinct) source
    (List.flatMap_eq_nil_iff.mp valid field source)

theorem converted_valid_symbols :
    ∃ target orchestration validation, convert symbols = .ok target ∧
      Orchestra.load (Orchestra.toXml [] target) = .ok orchestration ∧
      Settles (validateOrchestration orchestration) validation ∧
      validation.dangling = [] ∧ validation.dataTypeErrors = [] := by
  have fixes : fixKnownErrors symbols = .ok symbols := rfl
  have named : DataTypesNamed symbols := by
    refine ⟨Dict.indexes_ofValues _ _, ?_⟩
    intro field member
    rw [List.mem_singleton.mp member]
    decide
  obtain ⟨target, orchestration, validation, converts, loads, settles, dangling, valid⟩ :=
    converted_valid fixes symbols_wellFormed symbols_distinct named
      (fun _ _ _ reaches => symbols_truthy reaches) []
  exact ⟨target, orchestration, validation, converts, loads, settles, dangling, valid rfl⟩

end Crocofix.FixRepository
