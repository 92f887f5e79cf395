/-
The comparison of a repository with an orchestration.

Fields with one tag are compared by name, pedigree and number of values, messages of
one type by name, pedigree and set of fields.  A field that the orchestration has not,
or values that only one side has, are printed and count as no error.
-/

import Crocofix.Library.Keyed
import Crocofix.Orchestra.Validation

namespace Crocofix

def Orchestra.fieldValues (orchestration : Orchestra.Orchestration)
    (field : Orchestra.Field) : List Orchestra.Code :=
  ((orchestration.codeSets.get? field.type).map Orchestra.CodeSet.codes).getD []

def FixRepository.fieldValues (repository : FixRepository.Repository)
    (field : FixRepository.Field) : List FixRepository.Enum :=
  (repository.enums.get? field.id).getD []

namespace FixAudit

open Orchestra (Pedigree Failure item)
open FixRepository (Repository)
open Keyed (frozenset difference keys)

/-! ### Findings -/

/-- Errors hold the values that their texts are formatted with, those of the repository
before those of the orchestration. -/
inductive FieldError
  | name (id : Int) (repository orchestration : Text)
  | pedigree (id : Int) (repository orchestration : Pedigree)
  | values (name : Text) (repository orchestration : Nat)
deriving DecidableEq, Repr

/-- What is printed about a field and is no error. -/
inductive Notice
  | onlyOrchestration (name : Text) (values : List Text)
  | onlyRepository (name : Text) (values : List Text)
  | missing (id : Int)
deriving DecidableEq, Repr

inductive MessageError
  | name (msgType : Text) (repository orchestration : Text)
  | pedigree (msgType : Text) (repository orchestration : Pedigree)
  | fields (msgType : Text) (repository orchestration : Nat)
  | onlyOrchestration (msgType : Text) (fields : List Text)
  | onlyRepository (msgType : Text) (fields : List Text)
deriving DecidableEq, Repr

def reportIf {α : Type} (wrong : Prop) [Decidable wrong] (finding : α) : List α :=
  if wrong then [finding] else []

theorem reportIf_eq_nil_iff {α : Type} {wrong : Prop} [Decidable wrong] {finding : α} :
    reportIf wrong finding = [] ↔ ¬ wrong := by
  unfold reportIf
  split
  · next bad => exact iff_of_false nofun (not_not_intro bad)
  · next good => exact iff_of_true rfl good

/-! ### One field -/

section field

variable (repository : Repository) (orchestration : Orchestra.Orchestration)

def fieldErrors (id : Int) (field : FixRepository.Field) (other : Orchestra.Field) :
    List FieldError :=
  let oValues := frozenset Orchestra.Code.value (Orchestra.fieldValues orchestration other)
  let rValues := frozenset FixRepository.Enum.value (FixRepository.fieldValues repository field)
  reportIf (other.name ≠ field.name) (.name id field.name other.name) ++
  reportIf (field.pedigree ≠ other.pedigree) (.pedigree id field.pedigree other.pedigree) ++
  reportIf (oValues.length ≠ rValues.length)
    (.values field.name rValues.length oValues.length)

def fieldNotices (field : FixRepository.Field) (other : Orchestra.Field) : List Notice :=
  let oValues := frozenset Orchestra.Code.value (Orchestra.fieldValues orchestration other)
  let rValues := frozenset FixRepository.Enum.value (FixRepository.fieldValues repository field)
  let oExtras := difference Orchestra.Code.value FixRepository.Enum.value oValues rValues
  let rExtras := difference FixRepository.Enum.value Orchestra.Code.value rValues oValues
  reportIf (oExtras ≠ [])
    (.onlyOrchestration field.name (oExtras.map Orchestra.Code.name)) ++
  reportIf (rExtras ≠ [])
    (.onlyRepository field.name (rExtras.map FixRepository.Enum.symbolicName))

def compareField (id : Int) (field : FixRepository.Field) :
    List FieldError × List Notice :=
  match orchestration.fieldsByTag.get? id with
  | none => ([], [.missing id])
  | some other =>
      (fieldErrors repository orchestration id field other,
        fieldNotices repository orchestration field other)

end field

/-! ### One message -/

section message

variable (repository : Repository) (orchestration : Orchestra.Orchestration) (fuel : Nat)

def messageErrors (msgType : Text) (message : FixRepository.Message)
    (other : Orchestra.Message) (oFields : List Orchestra.Field)
    (rFields : List FixRepository.Field) : List MessageError :=
  let oSet := frozenset Orchestra.Field.id oFields
  let rSet := frozenset FixRepository.Field.id rFields
  let oExtras := difference Orchestra.Field.id FixRepository.Field.id oSet rSet
  let rExtras := difference FixRepository.Field.id Orchestra.Field.id rSet oSet
  reportIf (other.name ≠ message.name) (.name msgType message.name other.name) ++
  reportIf (other.pedigree ≠ message.pedigree)
    (.pedigree msgType message.pedigree other.pedigree) ++
  reportIf (oSet.length ≠ rSet.length) (.fields msgType rSet.length oSet.length) ++
  reportIf (oExtras ≠ []) (.onlyOrchestration msgType (oExtras.map Orchestra.Field.name)) ++
  reportIf (rExtras ≠ []) (.onlyRepository msgType (rExtras.map FixRepository.Field.name))

/-- A message that the repository has not raises an exception. -/
def compareMessage (msgType : Text) (other : Orchestra.Message) :
    Except Failure (List MessageError) := do
  let message ← item repository.messagesByMsgType msgType
  let oFields ← Orchestra.messageFields orchestration fuel other
  let rFields ← FixRepository.messageFields repository fuel message
  return messageErrors msgType message other
    (oFields.map Orchestra.MessageField.field) (rFields.map FixRepository.MessageField.field)

end message

/-! ### Everything -/

structure Comparison where
  fieldErrors : List FieldError
  notices : List Notice
  messageErrors : List MessageError
deriving DecidableEq, Repr

/-- The script does not exit with an error. -/
def Comparison.passes (comparison : Comparison) : Bool :=
  comparison.fieldErrors.isEmpty && comparison.messageErrors.isEmpty

def compareRepositoryWithOrchestration (repository : Repository)
    (orchestration : Orchestra.Orchestration) (fuel : Nat) : Except Failure Comparison := do
  let fields := repository.fieldsByTag.entries.map fun (id, field) =>
    compareField repository orchestration id field
  let messages ← orchestration.messagesByMsgType.entries.mapM fun (msgType, message) =>
    compareMessage repository orchestration fuel msgType message
  return {
    fieldErrors := fields.flatMap Prod.fst
    notices := fields.flatMap Prod.snd
    messageErrors := messages.flatten }

/-! ### What passes -/

structure FieldAgrees (repository : Repository) (orchestration : Orchestra.Orchestration)
    (field : FixRepository.Field) (other : Orchestra.Field) : Prop where
  name : other.name = field.name
  pedigree : other.pedigree = field.pedigree
  values : (keys Orchestra.Code.value (Orchestra.fieldValues orchestration other)).card =
    (keys FixRepository.Enum.value (FixRepository.fieldValues repository field)).card

structure MessageAgrees (message : FixRepository.Message) (other : Orchestra.Message)
    (oFields : List Orchestra.MessageField) (rFields : List FixRepository.MessageField) :
    Prop where
  name : other.name = message.name
  pedigree : other.pedigree = message.pedigree
  fields : keys (fun found => found.field.id) oFields =
    keys (fun found => found.field.id) rFields

section passes

variable {repository : Repository} {orchestration : Orchestra.Orchestration}

theorem fieldErrors_eq_nil_iff {id : Int} {field : FixRepository.Field}
    {other : Orchestra.Field} :
    fieldErrors repository orchestration id field other = [] ↔
      FieldAgrees repository orchestration field other := by
  unfold fieldErrors
  simp only [List.append_eq_nil_iff, reportIf_eq_nil_iff, not_not, Keyed.length_frozenset]
  constructor
  · rintro ⟨⟨name, pedigree⟩, values⟩
    exact ⟨name, pedigree.symm, values⟩
  · intro agrees
    exact ⟨⟨agrees.name, agrees.pedigree.symm⟩, agrees.values⟩

theorem fieldNotices_eq_nil_iff {field : FixRepository.Field} {other : Orchestra.Field} :
    fieldNotices repository orchestration field other = [] ↔
      keys Orchestra.Code.value (Orchestra.fieldValues orchestration other) =
        keys FixRepository.Enum.value (FixRepository.fieldValues repository field) := by
  unfold fieldNotices
  rw [List.append_eq_nil_iff, reportIf_eq_nil_iff, reportIf_eq_nil_iff, not_not, not_not]
  exact Keyed.differences_eq_nil_iff

theorem messageErrors_eq_nil_iff {msgType : Text} {message : FixRepository.Message}
    {other : Orchestra.Message} {oFields : List Orchestra.MessageField}
    {rFields : List FixRepository.MessageField} :
    messageErrors msgType message other (oFields.map Orchestra.MessageField.field)
      (rFields.map FixRepository.MessageField.field) = [] ↔
        MessageAgrees message other oFields rFields := by
  unfold messageErrors
  simp only [List.append_eq_nil_iff, reportIf_eq_nil_iff, not_not, Keyed.length_frozenset,
    and_assoc, Keyed.differences_eq_nil_iff, Keyed.keys_map]
  constructor
  · rintro ⟨name, pedigree, -, fields⟩
    exact ⟨name, pedigree, fields⟩
  · intro agrees
    exact ⟨agrees.name, agrees.pedigree, congrArg Finset.card agrees.fields, agrees.fields⟩

theorem compareField_fst_eq_nil_iff {id : Int} {field : FixRepository.Field} :
    (compareField repository orchestration id field).1 = [] ↔
      ∀ other, orchestration.fieldsByTag.get? id = some other →
        FieldAgrees repository orchestration field other := by
  unfold compareField
  cases orchestration.fieldsByTag.get? id with
  | none => exact iff_of_true rfl nofun
  | some found =>
      simp only [Option.some.injEq, forall_eq']
      exact fieldErrors_eq_nil_iff

theorem compareField_snd_eq_nil_iff {id : Int} {field : FixRepository.Field} :
    (compareField repository orchestration id field).2 = [] ↔
      ∃ other, orchestration.fieldsByTag.get? id = some other ∧
        keys Orchestra.Code.value (Orchestra.fieldValues orchestration other) =
          keys FixRepository.Enum.value (FixRepository.fieldValues repository field) := by
  unfold compareField
  cases orchestration.fieldsByTag.get? id with
  | none => exact iff_of_false nofun (by rintro ⟨other, ⟨⟩, -⟩)
  | some found =>
      simp only [Option.some.injEq, exists_eq_left']
      exact fieldNotices_eq_nil_iff

theorem compareMessage_eq_nil_iff {fuel : Nat} {msgType : Text} {other : Orchestra.Message} :
    compareMessage repository orchestration fuel msgType other = .ok [] ↔
      ∃ message oFields rFields,
        repository.messagesByMsgType.get? msgType = some message ∧
        Orchestra.messageFields orchestration fuel other = .ok oFields ∧
        FixRepository.messageFields repository fuel message = .ok rFields ∧
        MessageAgrees message other oFields rFields := by
  simp only [compareMessage, Attempt.bind_ok_iff, item_ok_iff]
  constructor
  · rintro ⟨message, known, oFields, listed, rFields, extracted, same⟩
    exact ⟨message, oFields, rFields, known, listed, extracted,
      messageErrors_eq_nil_iff.mp (Except.ok.inj same)⟩
  · rintro ⟨message, oFields, rFields, known, listed, extracted, agrees⟩
    exact ⟨message, known, oFields, listed, rFields, extracted,
      congrArg Except.ok (messageErrors_eq_nil_iff.mpr agrees)⟩

theorem fieldErrors_flatMap_eq_nil_iff :
    (repository.fieldsByTag.entries.map fun (id, field) =>
      compareField repository orchestration id field).flatMap Prod.fst = [] ↔
    ∀ id field other, repository.fieldsByTag.get? id = some field →
      orchestration.fieldsByTag.get? id = some other →
        FieldAgrees repository orchestration field other := by
  rw [List.flatMap_eq_nil_iff, List.forall_mem_map]
  constructor
  · intro none id field other found loaded
    have member := (Dict.mem_entries_iff _ id field).mpr found
    exact compareField_fst_eq_nil_iff.mp (none (id, field) member) other loaded
  · rintro agrees ⟨id, field⟩ member
    have found := (Dict.mem_entries_iff _ id field).mp member
    exact compareField_fst_eq_nil_iff.mpr fun other => agrees id field other found

theorem messageErrors_flatten_eq_nil_iff {fuel : Nat} :
    (∃ messages, (orchestration.messagesByMsgType.entries.mapM fun (msgType, message) =>
      compareMessage repository orchestration fuel msgType message) = .ok messages ∧
        messages.flatten = []) ↔
    ∀ msgType other, orchestration.messagesByMsgType.get? msgType = some other →
      compareMessage repository orchestration fuel msgType other = .ok [] := by
  rw [Attempt.flatten_mapM_eq_nil_iff]
  constructor
  · intro none msgType other found
    exact none (msgType, other) ((Dict.mem_entries_iff _ msgType other).mpr found)
  · rintro agrees ⟨msgType, other⟩ member
    exact agrees msgType other ((Dict.mem_entries_iff _ msgType other).mp member)

/-- The script exits without an error exactly when fields with one tag agree and every
message of the orchestration is in the repository and has the same fields. -/
theorem compare_passes_iff (repository : Repository) (orchestration : Orchestra.Orchestration)
    (fuel : Nat) :
    (∃ comparison, compareRepositoryWithOrchestration repository orchestration fuel =
      .ok comparison ∧ comparison.passes) ↔
    (∀ id field other, repository.fieldsByTag.get? id = some field →
      orchestration.fieldsByTag.get? id = some other →
        FieldAgrees repository orchestration field other) ∧
    ∀ msgType other, orchestration.messagesByMsgType.get? msgType = some other →
      ∃ message oFields rFields,
        repository.messagesByMsgType.get? msgType = some message ∧
        Orchestra.messageFields orchestration fuel other = .ok oFields ∧
        FixRepository.messageFields repository fuel message = .ok rFields ∧
        MessageAgrees message other oFields rFields := by
  simp only [← compareMessage_eq_nil_iff]
  rw [← messageErrors_flatten_eq_nil_iff, ← fieldErrors_flatMap_eq_nil_iff]
  simp only [compareRepositoryWithOrchestration, Attempt.bind_ok_iff, Comparison.passes,
    Bool.and_eq_true, List.isEmpty_iff]
  constructor
  · rintro ⟨comparison, ⟨messages, ok, same⟩, fields, none⟩
    cases same
    exact ⟨fields, messages, ok, none⟩
  · rintro ⟨fields, messages, ok, none⟩
    exact ⟨_, ⟨messages, ok, rfl⟩, fields, none⟩

end passes

end FixAudit

end Crocofix
