/-
The repair of the data types of a repository.

A field with an undefined data type gets one of three data types defined for it, or
its type is renamed, or the repair fails.  A renamed type is not defined, so that the
validator may still report it and a second repair may fail.
-/

import Crocofix.Orchestra.Reread
import Crocofix.Orchestra.Validation

namespace Crocofix.FixRepository

open Orchestra (Pedigree)

def addedIn (version : Text) : Pedigree :=
  ⟨some version, some [], some [], some [], some [], some []⟩

/-- The data types that are defined where they are missing. -/
def missingDataType (type : Text) : Option DataType :=
  if type = "Length".toList then
    some ⟨type, some "int".toList,
      some ("int field representing the length in bytes. " ++
        "Value must be positive.").toList,
      addedIn "FIX.4.3".toList⟩
  else if type = "Boolean".toList then
    some ⟨type, some "char".toList,
      some "char field containing one of two values: 'Y' = True/Yes 'N' = False/No".toList,
      addedIn "FIX.4.2".toList⟩
  else if type = "DayOfMonth".toList then
    some ⟨type, some "int".toList,
      some ("int field representing a day during a particular monthy " ++
        "(values 1 to 31).").toList,
      addedIn "FIX.4.1".toList⟩
  else
    none

def multipleValueString : Text := "MultipleValueString".toList

def multipleStringValue : Text := "MultipleStringValue".toList

/-- The field is found under its own tag, before and after its type is assigned. -/
def Repository.assign (repository : Repository) (field : Field) : Repository :=
  { repository with
    fieldsByTag := repository.fieldsByTag.set field.id field
    tagged := repository.tagged.set field }

def Repository.define (repository : Repository) (dataType : DataType) : Repository :=
  { repository with dataTypes := repository.dataTypes.set dataType.name dataType }

/-- One iteration of `fix_known_errors`; the error is the text of the exception. -/
def fixKnownError (repository : Repository) (field : Field) : Except Text Repository :=
  match repository.dataTypes.get? field.type with
  | some _ => return repository
  | none =>
      if field.type = multipleValueString then
        return repository.assign { field with type := multipleStringValue }
      else
        match missingDataType field.type with
        | some dataType => return repository.define dataType
        | none => throw ("Found a undefined data type '".toList ++ field.type ++
            "' that I dont know how to fix".toList)

def fixKnownErrors (repository : Repository) : Except Text Repository :=
  repository.fieldsByTag.values.foldlM fixKnownError repository

/-! ### What is repaired -/

section repair

variable (repository : Repository)

def Fixable (field : Field) : Prop :=
  (repository.dataTypes.get? field.type).isSome ∨ field.type = multipleValueString ∨
    (missingDataType field.type).isSome

def Renames (field : Field) : Prop :=
  field.type = multipleValueString ∧ repository.dataTypes.get? field.type = none

instance : DecidablePred (Renames repository) := fun field =>
  inferInstanceAs (Decidable (field.type = multipleValueString ∧
    repository.dataTypes.get? field.type = none))

def rename (field : Field) : Field :=
  if Renames repository field then { field with type := multipleStringValue } else field

def renamed (done : List Field) (field : Field) : Field :=
  if field ∈ done then rename repository field else field

def defined (done : List Field) (name : Text) : Option DataType :=
  if ∃ field ∈ done, field.type = name then missingDataType name else none

/-- What the repository has become when some of its fields have been looked at. -/
structure FixedFor (done : List Field) (fixed : Repository) : Prop where
  fields : ∀ id, fixed.fieldsByTag.get? id =
    (repository.fieldsByTag.get? id).map (renamed repository done)
  dataTypes : ∀ name, fixed.dataTypes.get? name =
    (repository.dataTypes.get? name).or (defined done name)
  enums : fixed.enums = repository.enums
  components : fixed.components = repository.components
  msgContents : fixed.msgContents = repository.msgContents
  messages : fixed.messages = repository.messages
  messagesByMsgType : fixed.messagesByMsgType = repository.messagesByMsgType
  version : fixed.version = repository.version

end repair

theorem name_of_missingDataType {type : Text} {dataType : DataType}
    (missing : missingDataType type = some dataType) : dataType.name = type := by
  unfold missingDataType at missing
  split at missing
  · cases missing
    rfl
  · split at missing
    · cases missing
      rfl
    · split at missing
      · cases missing
        rfl
      · cases missing

theorem missingDataType_multipleValueString : missingDataType multipleValueString = none := by
  decide

theorem missingDataType_multipleStringValue : missingDataType multipleStringValue = none := by
  decide

theorem defined_snoc (done : List Field) (field : Field) (name : Text) :
    defined (done ++ [field]) name =
      if field.type = name then missingDataType name else defined done name := by
  unfold defined
  by_cases last : field.type = name
  · rw [if_pos last, if_pos ⟨field, List.mem_append_right done List.mem_cons_self, last⟩]
  · have same : (∃ other ∈ done ++ [field], other.type = name) ↔
        ∃ other ∈ done, other.type = name := by
      constructor
      · rintro ⟨other, member, typed⟩
        rcases List.mem_append.mp member with earlier | here
        · exact ⟨other, earlier, typed⟩
        · rw [List.mem_singleton.mp here] at typed
          exact absurd typed last
      · rintro ⟨other, earlier, typed⟩
        exact ⟨other, List.mem_append_left _ earlier, typed⟩
    rw [if_neg last]
    exact if_congr same rfl rfl

theorem renamed_snoc_self (repository : Repository) (done : List Field) (field : Field) :
    renamed repository (done ++ [field]) field = rename repository field :=
  if_pos (List.mem_append_right done List.mem_cons_self)

theorem renamed_snoc_of_ne (repository : Repository) (done : List Field)
    {field other : Field} (differs : other ≠ field) :
    renamed repository (done ++ [field]) other = renamed repository done other := by
  have same : other ∈ done ++ [field] ↔ other ∈ done := by
    rw [List.mem_append, List.mem_singleton]
    exact or_iff_left differs
  exact if_congr same rfl rfl

theorem rename_of_not {repository : Repository} {field : Field}
    (kept : ¬ Renames repository field) : rename repository field = field :=
  if_neg kept

theorem renamed_snoc_of_not {repository : Repository} {field : Field}
    (kept : ¬ Renames repository field) (done : List Field) (other : Field) :
    renamed repository (done ++ [field]) other = renamed repository done other := by
  by_cases differs : other = field
  · rw [differs, renamed_snoc_self, rename_of_not kept]
    unfold renamed
    split
    · rw [rename_of_not kept]
    · rfl
  · exact renamed_snoc_of_ne repository done differs

/-! ### One field -/

theorem fixKnownError_cases {repository next : Repository} {field : Field}
    (ok : fixKnownError repository field = .ok next) :
    ((repository.dataTypes.get? field.type).isSome ∧ next = repository) ∨
    (Renames repository field ∧
      next = repository.assign { field with type := multipleStringValue }) ∨
    (∃ dataType, repository.dataTypes.get? field.type = none ∧
      missingDataType field.type = some dataType ∧ next = repository.define dataType) := by
  unfold fixKnownError at ok
  cases found : repository.dataTypes.get? field.type with
  | some dataType =>
      rw [found] at ok
      cases ok
      exact .inl ⟨rfl, rfl⟩
  | none =>
      rw [found] at ok
      by_cases multiple : field.type = multipleValueString
      · simp only [if_pos multiple] at ok
        cases ok
        exact .inr (.inl ⟨⟨multiple, found⟩, rfl⟩)
      · simp only [if_neg multiple] at ok
        cases missing : missingDataType field.type with
        | none =>
            rw [missing] at ok
            cases ok
        | some dataType =>
            rw [missing] at ok
            cases ok
            exact .inr (.inr ⟨dataType, rfl, rfl, rfl⟩)

theorem exists_fixKnownError_iff {repository : Repository} {field : Field} :
    (∃ next, fixKnownError repository field = .ok next) ↔ Fixable repository field := by
  unfold fixKnownError Fixable
  cases found : repository.dataTypes.get? field.type with
  | some dataType => exact iff_of_true ⟨_, rfl⟩ (.inl rfl)
  | none =>
      by_cases multiple : field.type = multipleValueString
      · simp only [if_pos multiple]
        exact iff_of_true ⟨_, rfl⟩ (.inr (.inl multiple))
      · simp only [if_neg multiple]
        cases missing : missingDataType field.type with
        | none => exact iff_of_false nofun (by simp [multiple])
        | some dataType => exact iff_of_true ⟨_, rfl⟩ (.inr (.inr rfl))

section step

variable {repository : Repository} {done : List Field} {fixed : Repository} {field : Field}

theorem fixedFor_nil : FixedFor repository [] repository where
  fields := by
    intro id
    have unchanged : renamed repository [] = fun field => field := by
      funext field
      exact if_neg List.not_mem_nil
    rw [unchanged, Option.map_id']
  dataTypes := by
    intro name
    have undefined : defined [] name = none := by
      apply if_neg
      rintro ⟨field, member, -⟩
      cases member
    rw [undefined, Option.or_none]
  enums := rfl
  components := rfl
  msgContents := rfl
  messages := rfl
  messagesByMsgType := rfl
  version := rfl

theorem FixedFor.renames_iff (state : FixedFor repository done fixed) :
    Renames fixed field ↔ Renames repository field := by
  apply and_congr_right
  intro multiple
  have never : defined done multipleValueString = none := by
    unfold defined
    rw [missingDataType_multipleValueString, ite_self]
  rw [state.dataTypes, multiple, never, Option.or_none]

theorem FixedFor.skip (state : FixedFor repository done fixed)
    (typed : (fixed.dataTypes.get? field.type).isSome) :
    FixedFor repository (done ++ [field]) fixed where
  fields := by
    intro id
    have kept : ¬ Renames repository field := by
      intro renames
      rw [(state.renames_iff.mpr renames).2] at typed
      cases typed
    rw [state.fields]
    exact congrArg (Option.map · _) (funext fun other =>
      (renamed_snoc_of_not kept done other).symm)
  dataTypes := by
    intro name
    rw [defined_snoc]
    split
    · next same =>
        rw [← same, state.dataTypes]
        rw [state.dataTypes] at typed
        cases known : repository.dataTypes.get? field.type with
        | some dataType => rfl
        | none =>
            rw [known] at typed
            change (defined done field.type).isSome at typed
            change defined done field.type = missingDataType field.type
            unfold defined at typed ⊢
            split at typed
            · next earlier => exact if_pos earlier
            · cases typed
    · exact state.dataTypes name
  enums := state.enums
  components := state.components
  msgContents := state.msgContents
  messages := state.messages
  messagesByMsgType := state.messagesByMsgType
  version := state.version

theorem FixedFor.assign (state : FixedFor repository done fixed)
    (member : field ∈ repository.fieldsByTag.values) (renames : Renames fixed field) :
    FixedFor repository (done ++ [field])
      (fixed.assign { field with type := multipleStringValue }) where
  fields := by
    intro id
    change (fixed.fieldsByTag.set field.id _).get? id = _
    rw [Dict.get?_set]
    split
    · next same =>
        rw [← same, repository.tagged.get?_of_mem member, Option.map_some,
          renamed_snoc_self, rename, if_pos (state.renames_iff.mp renames)]
    · next different =>
        rw [state.fields]
        cases found : repository.fieldsByTag.get? id with
        | none => rfl
        | some other =>
            have differs : other ≠ field := by
              rintro rfl
              exact different (repository.tagged id other found)
            exact congrArg some (renamed_snoc_of_ne repository done differs).symm
  dataTypes := by
    intro name
    change fixed.dataTypes.get? name = _
    rw [defined_snoc]
    split
    · next same =>
        rw [← same, renames.2, (state.renames_iff.mp renames).2, renames.1,
          missingDataType_multipleValueString]
        rfl
    · exact state.dataTypes name
  enums := state.enums
  components := state.components
  msgContents := state.msgContents
  messages := state.messages
  messagesByMsgType := state.messagesByMsgType
  version := state.version

theorem FixedFor.define (state : FixedFor repository done fixed) {dataType : DataType}
    (undefined : fixed.dataTypes.get? field.type = none)
    (missing : missingDataType field.type = some dataType) :
    FixedFor repository (done ++ [field]) (fixed.define dataType) where
  fields := by
    intro id
    have kept : ¬ Renames repository field := by
      rintro ⟨multiple, -⟩
      rw [multiple, missingDataType_multipleValueString] at missing
      cases missing
    change fixed.fieldsByTag.get? id = _
    rw [state.fields]
    exact congrArg (Option.map · _) (funext fun other =>
      (renamed_snoc_of_not kept done other).symm)
  dataTypes := by
    intro name
    change (fixed.dataTypes.set dataType.name dataType).get? name = _
    rw [Dict.get?_set, name_of_missingDataType missing, defined_snoc]
    split
    · next same =>
        rw [state.dataTypes] at undefined
        rw [← same, (Option.or_eq_none_iff.mp undefined).1, missing]
        rfl
    · exact state.dataTypes name
  enums := state.enums
  components := state.components
  msgContents := state.msgContents
  messages := state.messages
  messagesByMsgType := state.messagesByMsgType
  version := state.version

theorem FixedFor.step (state : FixedFor repository done fixed)
    (member : field ∈ repository.fieldsByTag.values) {next : Repository}
    (ok : fixKnownError fixed field = .ok next) :
    FixedFor repository (done ++ [field]) next := by
  rcases fixKnownError_cases ok with ⟨typed, rfl⟩ | ⟨renames, rfl⟩ |
    ⟨dataType, undefined, missing, rfl⟩
  · exact state.skip typed
  · exact state.assign member renames
  · exact state.define undefined missing

theorem FixedFor.fixable_iff (state : FixedFor repository done fixed) :
    Fixable fixed field ↔ Fixable repository field := by
  unfold Fixable
  rw [state.dataTypes]
  cases repository.dataTypes.get? field.type with
  | some dataType => exact iff_of_true (.inl rfl) (.inl rfl)
  | none =>
      constructor
      · rintro (earlier | other)
        · right
          right
          change (defined done field.type).isSome at earlier
          unfold defined at earlier
          split at earlier
          · exact earlier
          · cases earlier
        · exact .inr other
      · rintro (typed | other)
        · cases typed
        · exact .inr other

end step

/-! ### All fields -/

abbrev Fixed (repository fixed : Repository) : Prop :=
  FixedFor repository repository.fieldsByTag.values fixed

theorem fixed_of_fixKnownErrors {repository fixed : Repository}
    (fixes : fixKnownErrors repository = .ok fixed) : Fixed repository fixed :=
  Attempt.foldlM_keeps (FixedFor repository)
    (fun _ _ _ _ member state ok => state.step member ok) (List.Subset.refl _)
    fixedFor_nil fixes

theorem exists_fixKnownErrors_iff {repository : Repository} :
    (∃ fixed, fixKnownErrors repository = .ok fixed) ↔
      ∀ field ∈ repository.fieldsByTag.values, Fixable repository field :=
  Attempt.exists_foldlM_ok_iff (FixedFor repository)
    (fun _ _ _ _ member state ok => state.step member ok)
    (fun _ _ _ state => exists_fixKnownError_iff.trans state.fixable_iff)
    (List.Subset.refl _) fixedFor_nil

structure Unrepaired (repository : Repository) (field : Field) : Prop where
  renames : Renames repository field
  undefined : repository.dataTypes.get? multipleStringValue = none

section fixed

variable {repository fixed : Repository} (state : Fixed repository fixed)

include state

theorem fixed_field (id : Int) :
    fixed.fieldsByTag.get? id =
      (repository.fieldsByTag.get? id).map (rename repository) := by
  rw [state.fields]
  cases found : repository.fieldsByTag.get? id with
  | none => rfl
  | some field =>
      have member := (Dict.mem_values_iff _ field).mpr ⟨id, found⟩
      exact congrArg some (if_pos member)

theorem mem_fixed_values {field : Field} :
    field ∈ fixed.fieldsByTag.values ↔
      ∃ source ∈ repository.fieldsByTag.values, rename repository source = field := by
  simp only [Dict.mem_values_iff, fixed_field state, Option.map_eq_some_iff]
  constructor
  · rintro ⟨id, source, found, same⟩
    exact ⟨source, ⟨id, found⟩, same⟩
  · rintro ⟨source, ⟨id, found⟩, same⟩
    exact ⟨id, source, found, same⟩

theorem fixed_multipleStringValue :
    fixed.dataTypes.get? multipleStringValue =
      repository.dataTypes.get? multipleStringValue := by
  rw [state.dataTypes]
  unfold defined
  rw [missingDataType_multipleStringValue, ite_self, Option.or_none]

/-- A field that was repaired has an undefined type only if this is the new name. -/
theorem undefined_rename_iff {field : Field}
    (member : field ∈ repository.fieldsByTag.values)
    (fixable : Fixable repository field) :
    fixed.dataTypes.get? (rename repository field).type = none ↔
      Unrepaired repository field := by
  by_cases renames : Renames repository field
  · have type : (rename repository field).type = multipleStringValue := by
      unfold rename
      rw [if_pos renames]
    rw [type, fixed_multipleStringValue state]
    exact ⟨fun undefined => ⟨renames, undefined⟩, Unrepaired.undefined⟩
  · rw [rename_of_not renames]
    refine iff_of_false ?_ fun unrepaired => renames unrepaired.renames
    intro undefined
    have one : defined repository.fieldsByTag.values field.type =
        missingDataType field.type :=
      if_pos ⟨field, member, rfl⟩
    rw [state.dataTypes, one] at undefined
    obtain ⟨unknown, missing⟩ := Option.or_eq_none_iff.mp undefined
    rcases fixable with typed | multiple | repairable
    · rw [unknown] at typed
      cases typed
    · exact renames ⟨multiple, unknown⟩
    · rw [missing] at repairable
      cases repairable

end fixed

/-- After the repair the validator finds exactly the renamed fields without a type, and
these only where the new name is undefined. -/
theorem undefined_fixKnownErrors_iff {repository fixed : Repository}
    (fixes : fixKnownErrors repository = .ok fixed) (tag : Int) (type : Text) :
    .undefined tag type ∈ FixAudit.validateRepository fixed ↔
      type = multipleStringValue ∧ ∃ field, repository.fieldsByTag.get? tag = some field ∧
        Unrepaired repository field := by
  have state := fixed_of_fixKnownErrors fixes
  have fixable := exists_fixKnownErrors_iff.mp ⟨fixed, fixes⟩
  rw [FixAudit.undefined_mem_validateRepository]
  constructor
  · rintro ⟨renamed, found, rfl, undefined⟩
    rw [fixed_field state] at found
    obtain ⟨field, known, rfl⟩ := Option.map_eq_some_iff.mp found
    have member := (Dict.mem_values_iff _ field).mpr ⟨tag, known⟩
    have unrepaired :=
      (undefined_rename_iff state member (fixable field member)).mp undefined
    refine ⟨?_, field, known, unrepaired⟩
    unfold rename
    rw [if_pos unrepaired.renames]
  · rintro ⟨rfl, field, known, unrepaired⟩
    refine ⟨rename repository field, ?_, ?_, ?_⟩
    · rw [fixed_field state, known]
      rfl
    · unfold rename
      rw [if_pos unrepaired.renames]
    · rw [fixed_multipleStringValue state]
      exact unrepaired.undefined

def execInst : Field := ⟨18, "ExecInst".toList, multipleValueString, none, .empty⟩

def executions : Repository where
  enums := .empty
  fieldsByTag := .ofValues Field.id
    [⟨9, "BodyLength".toList, "Length".toList, none, .empty⟩, execInst]
  dataTypes := .empty
  components := .empty
  msgContents := .empty
  messages := []
  messagesByMsgType := .empty
  version := "FIX.4.2".toList
  tagged := Dict.indexes_ofValues _ _
  named := nofun
  typed := rfl
  appended := nofun
  owned := nofun

theorem unrepaired_execInst : Unrepaired executions execInst := ⟨⟨rfl, rfl⟩, rfl⟩

theorem undefined_fixKnownErrors_iff_executions :
    ∃ fixed, fixKnownErrors executions = .ok fixed ∧
      .undefined 18 multipleStringValue ∈ FixAudit.validateRepository fixed := by
  obtain ⟨fixed, fixes⟩ : ∃ fixed, fixKnownErrors executions = .ok fixed := ⟨_, rfl⟩
  exact ⟨fixed, fixes, (undefined_fixKnownErrors_iff fixes 18 multipleStringValue).mpr
    ⟨rfl, execInst, rfl, unrepaired_execInst⟩⟩

theorem foldlM_fixKnownError_of_typed {repository : Repository} {fields : List Field}
    (typed : ∀ field ∈ fields, (repository.dataTypes.get? field.type).isSome) :
    fields.foldlM fixKnownError repository = .ok repository := by
  induction fields with
  | nil => rfl
  | cons field fields ih =>
      have first : fixKnownError repository field = .ok repository := by
        obtain ⟨dataType, found⟩ :=
          Option.isSome_iff_exists.mp (typed field List.mem_cons_self)
        unfold fixKnownError
        rw [found]
        rfl
      rw [List.foldlM_cons, first]
      exact ih fun other later => typed other (List.mem_cons_of_mem _ later)

section again

variable {repository fixed : Repository}

theorem not_fixable_of_unrepaired (state : Fixed repository fixed) {field : Field}
    (unrepaired : Unrepaired repository field) :
    ¬ Fixable fixed (rename repository field) := by
  have renamed : (rename repository field).type = multipleStringValue := by
    unfold rename
    rw [if_pos unrepaired.renames]
  unfold Fixable
  rw [renamed, fixed_multipleStringValue state, unrepaired.undefined,
    missingDataType_multipleStringValue]
  decide

theorem fixKnownErrors_fixed (fixes : fixKnownErrors repository = .ok fixed)
    (repaired : ∀ field ∈ repository.fieldsByTag.values, ¬ Unrepaired repository field) :
    fixKnownErrors fixed = .ok fixed := by
  have state := fixed_of_fixKnownErrors fixes
  apply foldlM_fixKnownError_of_typed
  intro renamed member
  obtain ⟨field, source, rfl⟩ := (mem_fixed_values state).mp member
  have fixable := exists_fixKnownErrors_iff.mp ⟨fixed, fixes⟩ field source
  rw [← Option.ne_none_iff_isSome]
  intro undefined
  exact repaired field source ((undefined_rename_iff state source fixable).mp undefined)

/-- A second repair changes nothing, and it fails where a new name is undefined. -/
theorem fixKnownErrors_again (fixes : fixKnownErrors repository = .ok fixed) :
    (∀ again, fixKnownErrors fixed = .ok again → again = fixed) ∧
      ((∃ again, fixKnownErrors fixed = .ok again) ↔
        ∀ field ∈ repository.fieldsByTag.values, ¬ Unrepaired repository field) := by
  have state := fixed_of_fixKnownErrors fixes
  have repaired (again : ∃ again, fixKnownErrors fixed = .ok again) :
      ∀ field ∈ repository.fieldsByTag.values, ¬ Unrepaired repository field := by
    intro field source unrepaired
    have member := (mem_fixed_values state).mpr ⟨field, source, rfl⟩
    exact not_fixable_of_unrepaired state unrepaired
      (exists_fixKnownErrors_iff.mp again _ member)
  refine ⟨?_, repaired, fun each => ⟨fixed, fixKnownErrors_fixed fixes each⟩⟩
  intro again ok
  have unchanged := fixKnownErrors_fixed fixes (repaired ⟨again, ok⟩)
  exact Except.ok.inj (ok.symm.trans unchanged)

end again

theorem fixKnownErrors_again_executions :
    ∃ fixed, fixKnownErrors executions = .ok fixed ∧
      ¬ ∃ again, fixKnownErrors fixed = .ok again := by
  obtain ⟨fixed, fixes⟩ : ∃ fixed, fixKnownErrors executions = .ok fixed := ⟨_, rfl⟩
  refine ⟨fixed, fixes, ?_⟩
  intro again
  have member : execInst ∈ executions.fieldsByTag.values :=
    (Dict.mem_values_iff _ execInst).mpr ⟨18, rfl⟩
  exact (fixKnownErrors_again fixes).2.mp again execInst member unrepaired_execInst

end Crocofix.FixRepository
