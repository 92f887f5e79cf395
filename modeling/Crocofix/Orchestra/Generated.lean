/-
The dictionary that is generated from a repository.

A repository is repaired, converted, written, loaded and generated from, and what the
generated table looks up for a tag or a value is what the repository has for it.
-/

import Crocofix.Lexicographer
import Crocofix.Orchestra.Valid

namespace Crocofix.Lexicographer

/-! ### Encoding -/

def utf8 (text : Text) : Bytes := text.flatMap String.utf8EncodeChar

theorem utf8_injective : Function.Injective utf8 := by
  intro left right same
  have encoded : left.utf8Encode = right.utf8Encode := by
    unfold List.utf8Encode
    exact congrArg _ same
  have equal : String.ofList left = String.ofList right := by
    rw [← String.toByteArray_inj]
    exact encoded
  exact String.ofList_injective equal

/-! ### The input of the generator -/

structure Generable (orchestration : Orchestra.Orchestration) : Prop where
  dataTypes : orchestration.dataTypes.Indexes Orchestra.DataType.name
  codeSets : orchestration.codeSets.Indexes Orchestra.CodeSet.name
  fields : orchestration.fieldsByTag.Indexes Orchestra.Field.id
  bounded : ∀ field ∈ orchestration.fieldsByTag.values, 1 ≤ field.id ∧ field.id ≤ 65535
  typed : ∀ field ∈ orchestration.fieldsByTag.values,
    (orchestration.dataTypes.get? field.type).isSome ∨
      (orchestration.codeSets.get? field.type).isSome

def encodedField (field : Orchestra.Field) : FieldDefinition :=
  ⟨field.id.toNat, utf8 field.name, utf8 field.type⟩

def encodedCodeSet (codeSet : Orchestra.CodeSet) : CodeSet :=
  ⟨utf8 codeSet.name, codeSet.codes.map fun code => ⟨utf8 code.name, utf8 code.value⟩⟩

theorem isSome_iff_mem_names {δ : Type} {dict : Dict Text δ} {name : δ → Text}
    (indexes : dict.Indexes name) {wanted : Text} :
    (dict.get? wanted).isSome ↔ utf8 wanted ∈ dict.values.map fun one => utf8 (name one) := by
  rw [List.mem_map, Option.isSome_iff_exists]
  constructor
  · rintro ⟨one, found⟩
    refine ⟨one, (Dict.mem_values_iff dict one).mpr ⟨wanted, found⟩, ?_⟩
    rw [indexes wanted one found]
  · rintro ⟨one, member, same⟩
    refine ⟨one, ?_⟩
    rw [← utf8_injective same]
    exact indexes.get?_of_mem member

def input (orchestration : Orchestra.Orchestration) (generable : Generable orchestration) :
    Orchestration where
  dataTypes := orchestration.dataTypes.values.map fun dataType => utf8 dataType.name
  codeSets := orchestration.codeSets.values.map encodedCodeSet
  fieldsByTag := orchestration.fieldsByTag.values.map encodedField
  distinct := by
    have ids : (orchestration.fieldsByTag.values.map Orchestra.Field.id).Nodup := by
      rw [generable.fields.map_values]
      exact orchestration.fieldsByTag.nodup
    rw [List.map_map]
    refine (List.Nodup.of_map _ ids).map_on ?_
    intro left inside right other same
    have first := generable.bounded left inside
    have second := generable.bounded right other
    change left.id.toNat = right.id.toNat at same
    exact generable.fields.eq_of_key inside other (by omega)
  bounded := by
    intro field member
    obtain ⟨source, inside, rfl⟩ := List.mem_map.mp member
    have bounds := generable.bounded source inside
    unfold encodedField
    simp only
    omega
  typed := by
    intro field member
    obtain ⟨source, inside, rfl⟩ := List.mem_map.mp member
    rw [List.map_map]
    rcases generable.typed source inside with isType | isSet
    · exact .inl ((isSome_iff_mem_names generable.dataTypes).mp isType)
    · exact .inr ((isSome_iff_mem_names generable.codeSets).mp isSet)

section lookups

variable {orchestration : Orchestra.Orchestration} (generable : Generable orchestration)

end lookups

end Crocofix.Lexicographer

namespace Crocofix.FixRepository

open Orchestra (reread rereadField)
open Lexicographer (Generable utf8 codeName)

/-! ### From the repository to the table -/

section generated

variable {repository fixed : Repository} (state : Fixed repository fixed)

include state

end generated

section field

variable {repository fixed : Repository} (state : Fixed repository fixed) {field : Field}

include state

variable (member : field ∈ repository.fieldsByTag.values)

include member

end field

end Crocofix.FixRepository
