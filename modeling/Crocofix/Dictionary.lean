/-
The table of field definitions that a generated dictionary module builds.

The table maps a tag to an offset and the offset to a definition, with a dummy
definition in front for the tags in the gaps.  The constructor's checks are
fields of the structure, so that a table that it would refuse cannot be built.
-/

import Crocofix.FieldCollection

namespace Crocofix

open Numeral

/-- The part of `orchestration_field` that the message layer reads. -/
structure OrchestrationField where
  tag : Int32
  isData : Bool
deriving DecidableEq, Repr

/-- Gaps in the tag sequence are filled by a dummy whose tag is not positive. -/
def OrchestrationField.isValid (field : OrchestrationField) : Bool :=
  0 < field.tag

structure OrchestrationFieldCollection where
  fieldOffsets : List UInt16
  fields : List OrchestrationField
  nonempty : fields ≠ []
  enoughOffsets : fields.length ≤ fieldOffsets.length
  representable : (fields.getLast nonempty).tag ≤ 65535

namespace OrchestrationFieldCollection

/-- The conversion of an `int` tag to the `size_t` that `operator[]` takes. -/
def indexOf (tag : Int32) : Nat :=
  if tag < 0 then (18446744073709551616 + tag.toInt).toNat else tag.toInt.toNat

def get (collection : OrchestrationFieldCollection) (tag : Int32) :
    Except Exception OrchestrationField :=
  match collection.fieldOffsets[indexOf tag]? with
  | some offset =>
      match collection.fields[offset.toNat]? with
      | some field => .ok field
      | none => .error (outOfRange collection tag)
  | none => .error (outOfRange collection tag)
where
  outOfRange (collection : OrchestrationFieldCollection) (tag : Int32) :
      Exception :=
    ⟨.outOfRange, decimal (indexOf tag) ++
      ascii " exceeds the highest tag number " ++
        decimalInt (collection.fields.getLast collection.nonempty).tag.toInt⟩

/-- `orchestration::is_field_defined`, which throws for a tag beyond the
highest one. -/
def isFieldDefined (collection : OrchestrationFieldCollection) (tag : Int32) :
    Except Exception Bool :=
  (collection.get tag).map OrchestrationField.isValid

/-- The dictionary defines the tag, and its definition says whether the field
holds raw data. -/
def Defines (collection : OrchestrationFieldCollection) (tag : Int32)
    (isData : Bool) : Prop :=
  ∃ field, collection.get tag = .ok field ∧ field.tag = tag ∧
    field.isData = isData

theorem Defines.isData_unique {collection : OrchestrationFieldCollection}
    {tag : Int32} {left right : Bool} (first : collection.Defines tag left)
    (second : collection.Defines tag right) : left = right := by
  obtain ⟨definition, found, -, rfl⟩ := first
  obtain ⟨other, again, -, rfl⟩ := second
  rw [found] at again
  injection again with same
  rw [same]

def excerpt : OrchestrationFieldCollection where
  fieldOffsets := (List.range 97).map fun tag =>
    UInt16.ofNat (([8, 9, 10, 35, 95, 96].idxOf tag + 1) % 7)
  fields := [⟨0, false⟩, ⟨8, false⟩, ⟨9, false⟩, ⟨10, false⟩, ⟨35, false⟩,
    ⟨95, false⟩, ⟨96, true⟩]
  nonempty := by simp
  enoughOffsets := by simp
  representable := by decide

end OrchestrationFieldCollection

end Crocofix
