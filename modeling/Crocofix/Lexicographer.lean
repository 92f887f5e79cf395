/-
The field table of a dictionary, from the generator to the lookup.

The generator writes an offset for every tag up to the largest one, and the
definitions themselves in a loop of its own, which stops after 3001 of them.
The table looks a tag up by its offset.
-/

import Crocofix.Dictionary
import Mathlib.Data.List.Sort

namespace Crocofix

open Numeral

structure FieldValue where
  name : Bytes
  value : Bytes
deriving DecidableEq, Repr

/-- `orchestration_field` with what is looked up by name. -/
structure DictionaryField extends OrchestrationField where
  name : Bytes
  values : List FieldValue
deriving DecidableEq, Repr

namespace DictionaryField

def nameOfValue (field : DictionaryField) (value : Bytes) : Bytes :=
  match field.values.find? fun definition => definition.value = value with
  | some definition => definition.name
  | none => []

def dummy : DictionaryField :=
  { tag := 0
    isData := false
    name := []
    values := [] }

end DictionaryField

/-! ### The table -/

/-- `orchestration_field_collection`, past the checks of its constructor. -/
structure FieldTable where
  fieldOffsets : List UInt16
  fields : List DictionaryField
  nonempty : fields ≠ []
  enoughOffsets : fields.length ≤ fieldOffsets.length
  representable : (fields.getLast nonempty).tag ≤ 65535

namespace FieldTable

def construct (fieldOffsets : List UInt16) (fields : List DictionaryField)
    (nonempty : fields ≠ []) : Except Exception FieldTable :=
  if enoughOffsets : fields.length ≤ fieldOffsets.length then
    if representable : (fields.getLast nonempty).tag ≤ 65535 then
      .ok { fieldOffsets, fields, nonempty, enoughOffsets, representable }
    else
      .error ⟨.invalidArgument, ascii "the maximum field tag " ++
        decimalInt (fields.getLast nonempty).tag.toInt ++
          ascii " is too large for the field offset type to represent"⟩
  else
    .error ⟨.invalidArgument, ascii "field_offsets.size() " ++
      decimal fieldOffsets.length ++ ascii " must be >= fields.size()" ++
        decimal fields.length⟩

/-- The lookup that `operator[]` and the two name lookups share. -/
def lookup (table : FieldTable) (tag : Nat) : Option DictionaryField :=
  match table.fieldOffsets[tag]? with
  | some offset => table.fields[offset.toNat]?
  | none => none

def get (table : FieldTable) (tag : Nat) : Except Exception DictionaryField :=
  match table.lookup tag with
  | some field => .ok field
  | none => .error ⟨.outOfRange, decimal tag ++
      ascii " exceeds the highest tag number " ++
        decimalInt (table.fields.getLast table.nonempty).tag.toInt⟩

def nameOfField (table : FieldTable) (tag : Nat) : Bytes :=
  match table.lookup tag with
  | some field => field.name
  | none => []

def nameOfValue (table : FieldTable) (tag : Nat) (value : Bytes) : Bytes :=
  match table.lookup tag with
  | some field => field.nameOfValue value
  | none => []

def collection (table : FieldTable) : OrchestrationFieldCollection where
  fieldOffsets := table.fieldOffsets
  fields := table.fields.map DictionaryField.toOrchestrationField
  nonempty := by simpa using table.nonempty
  enoughOffsets := by simpa using table.enoughOffsets
  representable := by
    rw [List.getLast_map]
    exact table.representable

theorem get_collection {table : FieldTable} {tag : Int32}
    {field : DictionaryField}
    (found : table.lookup (OrchestrationFieldCollection.indexOf tag) = some field) :
    table.collection.get tag = .ok field.toOrchestrationField := by
  unfold lookup at found
  unfold OrchestrationFieldCollection.get collection
  simp only
  cases offset : table.fieldOffsets[OrchestrationFieldCollection.indexOf tag]? with
  | none =>
      rw [offset] at found
      cases found
  | some position =>
      rw [offset] at found
      simp only at found ⊢
      rw [List.getElem?_map, found]
      rfl

theorem lookup_of_get {table : FieldTable} {tag : Int32}
    {definition : OrchestrationField}
    (found : table.collection.get tag = .ok definition) :
    ∃ field, table.lookup (OrchestrationFieldCollection.indexOf tag) = some field ∧
      field.toOrchestrationField = definition := by
  unfold OrchestrationFieldCollection.get collection at found
  unfold lookup
  simp only at found
  cases offset : table.fieldOffsets[OrchestrationFieldCollection.indexOf tag]? with
  | none =>
      rw [offset] at found
      cases found
  | some position =>
      rw [offset] at found
      simp only [List.getElem?_map] at found ⊢
      cases here : table.fields[position.toNat]? with
      | none =>
          rw [here] at found
          cases found
      | some field =>
          rw [here] at found
          injection found with same
          exact ⟨field, rfl, same⟩

end FieldTable

/-! ### The orchestration -/

structure Code where
  name : Bytes
  value : Bytes
deriving DecidableEq, Repr

structure CodeSet where
  name : Bytes
  codes : List Code
deriving DecidableEq, Repr

structure FieldDefinition where
  id : Nat
  name : Bytes
  type : Bytes
deriving DecidableEq, Repr

/-- The parts of an orchestration that its fields are generated from.  The data
types are given by their names. -/
structure Orchestration where
  dataTypes : List Bytes
  codeSets : List CodeSet
  fieldsByTag : List FieldDefinition
  distinct : (fieldsByTag.map FieldDefinition.id).Nodup
  bounded : ∀ field ∈ fieldsByTag, 1 ≤ field.id ∧ field.id ≤ 65535
  typed : ∀ field ∈ fieldsByTag, field.type ∈ dataTypes ∨
    field.type ∈ codeSets.map CodeSet.name

namespace Lexicographer

/-- `sorted(orchestration.fields_by_tag.values(), key=lambda x: int(x.id))`. -/
def sortedFields (orchestration : Orchestration) : List FieldDefinition :=
  orchestration.fieldsByTag.mergeSort fun left right => left.id ≤ right.id

def codeSet (orchestration : Orchestration) (field : FieldDefinition) :
    Option CodeSet :=
  orchestration.codeSets.find? fun set => set.name = field.type

/-- The name of the data type of a field, or else of its code set. -/
def typeName (orchestration : Orchestration) (field : FieldDefinition) :
    Option Bytes :=
  (orchestration.dataTypes.find? fun name => name = field.type).or
    ((codeSet orchestration field).map CodeSet.name)

def capitalised : Bytes → Bytes
  | [] => []
  | first :: rest => (first - 32) :: rest

/-- The name of a code, which must not be that of its class or of a built-in
type. -/
def codeName (field : FieldDefinition) (code : Code) : Bytes :=
  let name := if code.name = field.name then code.name ++ ascii "_" else code.name
  if name ∈ [ascii "char", ascii "int", ascii "float", ascii "double"] then
    capitalised name
  else name

def definition (orchestration : Orchestration) (field : FieldDefinition) :
    DictionaryField :=
  { tag := Int32.ofNat field.id
    isData := typeName orchestration field = some (ascii "data")
    name := field.name
    values :=
      match codeSet orchestration field with
      | some set => set.codes.map fun code => ⟨codeName field code, code.value⟩
      | none => [] }

/-- `while index < int(field.id)`: the offsets written, and the two counters. -/
def fillGap (id index : Nat) (offset : Int) : List Int × Nat × Int :=
  if index < id then
    let (written, next) := fillGap id (index + 1) (offset + 1)
    (0 :: written, next)
  else ([], index, offset)
termination_by id - index

def writeOffsets : List FieldDefinition → Nat → Int → List Int
  | [], _, _ => []
  | field :: rest, index, offset =>
      let (written, index, offset) := fillGap field.id index offset
      written ++ (index - offset) :: writeOffsets rest (index + 1) offset

/-- The loop that writes the fields, with its own counter. -/
def writeFields : List FieldDefinition → Nat → List FieldDefinition
  | [], _ => []
  | field :: rest, index =>
      field :: if 3000 < index then [] else writeFields rest (index + 1)

def fieldOffsets (orchestration : Orchestration) : List Int :=
  writeOffsets (sortedFields orchestration) 0 (-1)

def definitions (orchestration : Orchestration) : List DictionaryField :=
  .dummy :: (writeFields (sortedFields orchestration) 1).map
    (definition orchestration)

theorem definitions_ne_nil (orchestration : Orchestration) :
    definitions orchestration ≠ [] := List.cons_ne_nil _ _

/-- The generated `fields()`, which terminates the program where the constructor
throws. -/
def table (orchestration : Orchestration) : Except Exception FieldTable :=
  FieldTable.construct
    ((fieldOffsets orchestration).map fun offset => UInt16.ofNat offset.toNat)
    (definitions orchestration) (definitions_ne_nil orchestration)

structure Agrees (orchestration : Orchestration) : Prop where
  /-- No offset is narrowed. -/
  compiles : ∀ offset ∈ fieldOffsets orchestration, 0 ≤ offset ∧ offset ≤ 65535
  lookups : ∃ built, table orchestration = .ok built ∧
    (∀ field ∈ orchestration.fieldsByTag,
      built.get field.id = .ok (definition orchestration field)) ∧
    (∀ tag, (∀ field ∈ orchestration.fieldsByTag, field.id ≠ tag) →
      (∃ field ∈ orchestration.fieldsByTag, tag < field.id) →
        ∃ gap, built.get tag = .ok gap ∧ gap.isValid = false ∧
          gap.isData = false) ∧
    (∀ tag, (∀ field ∈ orchestration.fieldsByTag, field.id < tag) →
      ∃ text, built.get tag = .error ⟨.outOfRange, text⟩) ∧
    ∀ tag, match built.get tag with
      | .ok field => built.nameOfField tag = field.name ∧
          ∀ value, built.nameOfValue tag value = field.nameOfValue value
      | .error _ => built.nameOfField tag = [] ∧
          ∀ value, built.nameOfValue tag value = []

theorem typeName_eq {orchestration : Orchestration} {field : FieldDefinition}
    (member : field ∈ orchestration.fieldsByTag) :
    typeName orchestration field = some field.type := by
  unfold typeName codeSet
  cases isType : orchestration.dataTypes.find? fun name => name = field.type with
  | some name =>
      have named := List.find?_some isType
      exact congrArg some (of_decide_eq_true named)
  | none =>
      rcases orchestration.typed field member with inside | inside
      · exact absurd (decide_eq_true rfl) (List.find?_eq_none.mp isType _ inside)
      · obtain ⟨set, isSet, named⟩ := List.mem_map.mp inside
        cases found : orchestration.codeSets.find? fun set => set.name = field.type with
        | some set =>
            have named := List.find?_some found
            exact congrArg some (of_decide_eq_true named)
        | none => exact absurd (decide_eq_true named) (List.find?_eq_none.mp found set isSet)

/-! ### The two loops -/

structure Ascending (fields : List FieldDefinition) (index : Nat) : Prop where
  sorted : fields.Pairwise fun left right => left.id < right.id
  above : ∀ field ∈ fields, index ≤ field.id

theorem Ascending.tail {field : FieldDefinition} {rest : List FieldDefinition}
    {index : Nat} (ascending : Ascending (field :: rest) index) :
    Ascending rest (field.id + 1) where
  sorted := (List.pairwise_cons.mp ascending.sorted).2
  above := (List.pairwise_cons.mp ascending.sorted).1

theorem fillGap_eq {id index : Nat} (below : index ≤ id) (offset : Int) :
    fillGap id index offset =
      (List.replicate (id - index) 0, id, offset + (id - index : Nat)) := by
  induction remaining : id - index generalizing index offset with
  | zero =>
      have same : index = id := by omega
      rw [fillGap, if_neg (by omega), same]
      simp
  | succ remaining ih =>
      rw [fillGap, if_pos (by omega)]
      rw [ih (by omega) (offset + 1) (by omega)]
      simp only [List.replicate_succ, Prod.mk.injEq, true_and]
      omega

theorem writeOffsets_cons {field : FieldDefinition} {rest : List FieldDefinition}
    {index : Nat} (below : index ≤ field.id) (offset : Int) :
    writeOffsets (field :: rest) index offset =
      List.replicate (field.id - index) 0 ++ (index - offset) ::
        writeOffsets rest (field.id + 1) (offset + (field.id - index : Nat)) := by
  rw [writeOffsets, fillGap_eq below]
  simp only
  congr 2
  omega

/-- What is written for a tag: one more than the position of its field, counted
from the first one written, or a zero in a gap. -/
theorem writeOffsets_getElem? {fields : List FieldDefinition} {index : Nat}
    (ascending : Ascending fields index) (offset : Int) {tag : Nat}
    (above : index ≤ tag) :
    (writeOffsets fields index offset)[tag - index]? =
      match fields.findIdx? fun field => field.id = tag with
      | some position => some (index - offset + position)
      | none => if fields.any fun field => tag < field.id then some 0 else none := by
  induction fields generalizing index offset with
  | nil => rfl
  | cons field rest ih =>
      have below := ascending.above field List.mem_cons_self
      have later := (List.pairwise_cons.mp ascending.sorted).1
      rw [writeOffsets_cons below]
      rcases Nat.lt_trichotomy tag field.id with gap | here | beyond
      · have missing : (field :: rest).findIdx? (fun field => field.id = tag) =
            none := by
          rw [List.findIdx?_eq_none_iff]
          intro other member
          rcases List.mem_cons.mp member with rfl | inside
          · simp only [decide_eq_false_iff_not]
            omega
          · have := later other inside
            simp only [decide_eq_false_iff_not]
            omega
        rw [missing, List.getElem?_append_left (by simp; omega),
          List.getElem?_replicate, if_pos (by omega)]
        simp [gap]
      · rw [List.getElem?_append_right (by simp; omega)]
        simp [here, List.findIdx?_cons]
      · rw [List.getElem?_append_right (by simp; omega)]
        have position : tag - index - (List.replicate (field.id - index)
            (0 : Int)).length = tag - (field.id + 1) + 1 := by
          rw [List.length_replicate]
          omega
        rw [position, List.getElem?_cons_succ, ih ascending.tail _ beyond,
          List.findIdx?_cons]
        have differs : field.id ≠ tag := by omega
        have notBelow : ¬ tag < field.id := by omega
        simp only [differs, decide_false, Bool.false_eq_true, if_false,
          List.any_cons, notBelow, Bool.false_or]
        cases rest.findIdx? fun field => field.id = tag with
        | none => rfl
        | some position =>
            simp only [Option.map_some, Option.some.injEq]
            omega

theorem mem_writeOffsets {fields : List FieldDefinition} {index : Nat}
    (ascending : Ascending fields index) {offset written : Int}
    (member : written ∈ writeOffsets fields index offset) :
    written = 0 ∨ index - offset ≤ written ∧
      written < index - offset + fields.length := by
  induction fields generalizing index offset with
  | nil => cases member
  | cons field rest ih =>
      have below := ascending.above field List.mem_cons_self
      rw [writeOffsets_cons below, List.mem_append, List.mem_cons] at member
      rcases member with gap | here | later
      · exact .inl (List.eq_of_mem_replicate gap)
      · refine .inr ⟨le_of_eq here.symm, ?_⟩
        rw [List.length_cons]
        omega
      · rcases ih ascending.tail later with zero | bounds
        · exact .inl zero
        · refine .inr ⟨?_, ?_⟩
          · omega
          · rw [List.length_cons]
            omega

theorem length_le_writeOffsets {fields : List FieldDefinition} {index : Nat}
    (ascending : Ascending fields index) (offset : Int) :
    fields.length ≤ (writeOffsets fields index offset).length := by
  induction fields generalizing index offset with
  | nil => exact Nat.zero_le _
  | cons field rest ih =>
      have below := ascending.above field List.mem_cons_self
      have := ih ascending.tail (offset + (field.id - index : Nat))
      rw [writeOffsets_cons below, List.length_append, List.length_cons,
        List.length_cons]
      omega

theorem writeFields_eq (fields : List FieldDefinition) {index : Nat}
    (within : index ≤ 3001) :
    writeFields fields index = fields.take (3002 - index) := by
  induction fields generalizing index with
  | nil => rw [writeFields, List.take_nil]
  | cons field rest ih =>
      have positive : 3002 - index = (3001 - index) + 1 := by omega
      rw [writeFields, positive, List.take_succ_cons]
      by_cases last : 3000 < index
      · have none : 3001 - index = 0 := by omega
        rw [if_pos last, none, List.take_zero]
      · have next : 3002 - (index + 1) = 3001 - index := by omega
        rw [if_neg last, ih (by omega), next]

/-! ### The fields in order -/

theorem mem_sortedFields {orchestration : Orchestration}
    {field : FieldDefinition} :
    field ∈ sortedFields orchestration ↔ field ∈ orchestration.fieldsByTag :=
  List.mem_mergeSort

theorem length_sortedFields (orchestration : Orchestration) :
    (sortedFields orchestration).length = orchestration.fieldsByTag.length :=
  List.length_mergeSort _

theorem sortedFields_ascending (orchestration : Orchestration) {index : Nat}
    (within : index ≤ 1) : Ascending (sortedFields orchestration) index where
  sorted := by
    have ordered : (sortedFields orchestration).Pairwise fun left right =>
        decide (left.id ≤ right.id) = true := by
      apply List.pairwise_mergeSort
      · intro first second third
        simp only [decide_eq_true_eq]
        omega
      · intro left right
        simp only [Bool.or_eq_true, decide_eq_true_eq]
        omega
    have distinct : (sortedFields orchestration).Pairwise fun left right =>
        left.id ≠ right.id := by
      rw [← List.pairwise_map (R := (· ≠ ·))]
      exact ((List.mergeSort_perm _ _).map _).nodup_iff.mpr orchestration.distinct
    refine (ordered.and distinct).imp ?_
    rintro left right ⟨notAbove, differs⟩
    exact lt_of_le_of_ne (of_decide_eq_true notAbove) differs
  above := by
    intro field member
    exact le_trans within
      (orchestration.bounded field (mem_sortedFields.mp member)).1

theorem length_fieldsByTag (orchestration : Orchestration) :
    orchestration.fieldsByTag.length ≤ 65535 := by
  have inside : orchestration.fieldsByTag.map FieldDefinition.id ⊆
      List.range' 1 65535 := by
    intro id member
    obtain ⟨field, isField, rfl⟩ := List.mem_map.mp member
    have bounds := orchestration.bounded field isField
    rw [List.mem_range'_1]
    omega
  have shorter := (List.subperm_of_subset orchestration.distinct inside).length_le
  rw [List.length_map, List.length_range'] at shorter
  exact shorter

theorem fieldOffsets_getElem? (orchestration : Orchestration) (tag : Nat) :
    (fieldOffsets orchestration)[tag]? =
      match (sortedFields orchestration).findIdx? fun field => field.id = tag with
      | some position => some (position + 1 : Int)
      | none =>
          if (sortedFields orchestration).any fun field => tag < field.id then
            some 0
          else none := by
  have read := writeOffsets_getElem?
    (sortedFields_ascending orchestration (Nat.zero_le 1)) (-1) (Nat.zero_le tag)
  rw [Nat.sub_zero] at read
  unfold fieldOffsets
  rw [read]
  cases (sortedFields orchestration).findIdx? fun field => field.id = tag with
  | none => rfl
  | some position =>
      simp only [Option.some.injEq]
      omega

theorem definitions_eq (orchestration : Orchestration) :
    definitions orchestration =
      .dummy :: ((sortedFields orchestration).take 3001).map
        (definition orchestration) := by
  unfold definitions
  rw [writeFields_eq _ (by omega)]

theorem narrow_toNat {position : Nat} (within : position ≤ 65535) :
    (UInt16.ofNat (position : Int).toNat).toNat = position := by
  rw [Int.toNat_natCast, UInt16.toNat_ofNat']
  omega

theorem lookup_table {orchestration : Orchestration} {built : FieldTable}
    (constructed : table orchestration = .ok built) (tag : Nat) :
    built.lookup tag =
      match (sortedFields orchestration).findIdx? fun field => field.id = tag with
      | some position =>
          (((sortedFields orchestration).take 3001)[position]?).map
            (definition orchestration)
      | none =>
          if (sortedFields orchestration).any fun field => tag < field.id then
            some .dummy
          else none := by
  have parts : built.fieldOffsets = (fieldOffsets orchestration).map
      (fun offset => UInt16.ofNat offset.toNat) ∧
        built.fields = definitions orchestration := by
    unfold table FieldTable.construct at constructed
    split at constructed
    · split at constructed
      · injection constructed with same
        rw [← same]
        exact ⟨rfl, rfl⟩
      · cases constructed
    · cases constructed
  unfold FieldTable.lookup
  rw [parts.1, parts.2, List.getElem?_map, fieldOffsets_getElem?, definitions_eq]
  cases found : (sortedFields orchestration).findIdx? fun field =>
      field.id = tag with
  | none =>
      simp only
      by_cases gap : (sortedFields orchestration).any fun field => tag < field.id
      · rw [if_pos gap, if_pos gap]
        rfl
      · rw [if_neg gap, if_neg gap]
        rfl
  | some position =>
      have short := length_fieldsByTag orchestration
      have inside := (List.findIdx?_eq_some_iff_findIdx_eq.mp found).1
      rw [length_sortedFields] at inside
      have offset := @narrow_toNat (position + 1) (by omega)
      push_cast at offset
      simp only [Option.map_some]
      rw [offset, List.getElem?_cons_succ, List.getElem?_map]

theorem tag_definition_le {orchestration : Orchestration}
    {field : FieldDefinition} (member : field ∈ orchestration.fieldsByTag) :
    (definition orchestration field).tag ≤ 65535 := by
  have bounds := orchestration.bounded field member
  unfold definition
  rw [Int32.le_iff_toInt_le]
  simp only
  rw [Int32.toInt_ofNat_of_lt (by omega)]
  change (field.id : Int) ≤ 65535
  omega

theorem table_built {orchestration : Orchestration}
    (some : orchestration.fieldsByTag ≠ []) :
    ∃ built, table orchestration = .ok built := by
  have ascending := sortedFields_ascending orchestration (Nat.zero_le 1)
  have enough : (definitions orchestration).length ≤
      ((fieldOffsets orchestration).map fun offset =>
        UInt16.ofNat offset.toNat).length := by
    have nonempty : sortedFields orchestration ≠ [] := by
      intro empty
      apply some
      rw [← List.length_eq_zero_iff, ← length_sortedFields, empty]
      rfl
    rw [definitions_eq, List.length_map, List.length_cons, List.length_map,
      List.length_take]
    unfold fieldOffsets
    cases fields : sortedFields orchestration with
    | nil => exact absurd fields nonempty
    | cons field rest =>
        have first := (sortedFields_ascending orchestration (le_refl 1)).above
          field (by rw [fields]; exact List.mem_cons_self)
        rw [fields] at ascending
        have rest := length_le_writeOffsets ascending.tail
          (-1 + (field.id - 0 : Nat))
        rw [writeOffsets_cons (Nat.zero_le _), List.length_append,
          List.length_replicate, List.length_cons, List.length_cons]
        omega
  have small : ∀ field ∈ definitions orchestration, field.tag ≤ 65535 := by
    intro field member
    rw [definitions_eq] at member
    rcases List.mem_cons.mp member with dummy | generated
    · rw [dummy]
      decide
    · obtain ⟨source, inside, same⟩ := List.mem_map.mp generated
      rw [← same]
      exact tag_definition_le (mem_sortedFields.mp (List.mem_of_mem_take inside))
  unfold table FieldTable.construct
  rw [dif_pos enough, dif_pos (small _ (List.getLast_mem _))]
  exact ⟨_, rfl⟩

/-! ### When the table agrees -/

theorem findIdx?_sortedFields {orchestration : Orchestration} {position : Nat}
    {field : FieldDefinition}
    (here : (sortedFields orchestration)[position]? = some field) :
    (sortedFields orchestration).findIdx? (fun other => other.id = field.id) =
      some position := by
  have ascending := sortedFields_ascending orchestration (Nat.zero_le 1)
  obtain ⟨inside, value⟩ := List.getElem?_eq_some_iff.mp here
  rw [List.findIdx?_eq_some_iff_getElem]
  refine ⟨inside, by simp [value], ?_⟩
  intro earlier before
  have lower := List.pairwise_iff_getElem.mp ascending.sorted earlier position
    (by omega) inside before
  rw [value] at lower
  simp only [Bool.not_eq_true, decide_eq_false_iff_not]
  omega

theorem findIdx?_sortedFields_none {orchestration : Orchestration} {tag : Nat}
    (undefined : ∀ field ∈ orchestration.fieldsByTag, field.id ≠ tag) :
    (sortedFields orchestration).findIdx? (fun field => field.id = tag) = none := by
  rw [List.findIdx?_eq_none_iff]
  intro field member
  simpa using undefined field (mem_sortedFields.mp member)

theorem names_agree (built : FieldTable) (tag : Nat) :
    match built.get tag with
    | .ok field => built.nameOfField tag = field.name ∧
        ∀ value, built.nameOfValue tag value = field.nameOfValue value
    | .error _ => built.nameOfField tag = [] ∧
        ∀ value, built.nameOfValue tag value = [] := by
  unfold FieldTable.get FieldTable.nameOfField FieldTable.nameOfValue
  cases built.lookup tag with
  | none => exact ⟨rfl, fun _ => rfl⟩
  | some field => exact ⟨rfl, fun _ => rfl⟩

theorem get_of_lookup {built : FieldTable} {tag : Nat} {field : DictionaryField}
    (found : built.lookup tag = some field) : built.get tag = .ok field := by
  unfold FieldTable.get
  rw [found]

theorem compiles (orchestration : Orchestration) {offset : Int}
    (written : offset ∈ fieldOffsets orchestration) :
    0 ≤ offset ∧ offset ≤ 65535 := by
  have short := length_fieldsByTag orchestration
  rw [← length_sortedFields] at short
  rcases mem_writeOffsets (sortedFields_ascending orchestration (Nat.zero_le 1))
    written with zero | bounds
  · omega
  · omega

theorem agrees_of_bounded {orchestration : Orchestration}
    (some : orchestration.fieldsByTag ≠ [])
    (few : orchestration.fieldsByTag.length ≤ 3001) : Agrees orchestration := by
  obtain ⟨built, constructed⟩ := table_built some
  have all : (sortedFields orchestration).take 3001 = sortedFields orchestration := by
    apply List.take_of_length_le
    rw [length_sortedFields]
    exact few
  have lookup := lookup_table constructed
  rw [all] at lookup
  refine ⟨fun offset => compiles orchestration, built, constructed, ?_, ?_, ?_,
    names_agree built⟩
  · intro field member
    obtain ⟨position, here⟩ := List.getElem?_of_mem (mem_sortedFields.mpr member)
    apply get_of_lookup
    rw [lookup, findIdx?_sortedFields here]
    simp only
    rw [here]
    rfl
  · rintro tag undefined ⟨field, member, above⟩
    have gap : (sortedFields orchestration).any fun field => tag < field.id := by
      rw [List.any_eq_true]
      exact ⟨field, mem_sortedFields.mpr member, decide_eq_true above⟩
    refine ⟨.dummy, get_of_lookup ?_, by decide, rfl⟩
    rw [lookup, findIdx?_sortedFields_none undefined]
    exact if_pos gap
  · intro tag beyond
    have undefined : ∀ field ∈ orchestration.fieldsByTag, field.id ≠ tag :=
      fun field member => Nat.ne_of_lt (beyond field member)
    have none : built.lookup tag = none := by
      rw [lookup, findIdx?_sortedFields_none undefined]
      apply if_neg
      rw [List.any_eq_true]
      rintro ⟨field, member, above⟩
      have below := beyond field (mem_sortedFields.mp member)
      have above := of_decide_eq_true above
      omega
    unfold FieldTable.get
    rw [none]
    exact ⟨_, rfl⟩

theorem not_built_of_empty {orchestration : Orchestration}
    (empty : orchestration.fieldsByTag = []) (built : FieldTable) :
    table orchestration ≠ .ok built := by
  have none : sortedFields orchestration = [] := by
    rw [← List.length_eq_zero_iff, length_sortedFields, empty]
    rfl
  intro constructed
  unfold table FieldTable.construct at constructed
  split at constructed
  · next enough =>
    unfold fieldOffsets at enough
    rw [none, definitions_eq, List.length_cons] at enough
    exact absurd enough (by simp [writeOffsets])
  · cases constructed

/-- A field of the orchestration is found, or it was left out. -/
theorem lookup_of_mem {orchestration : Orchestration} {built : FieldTable}
    (constructed : table orchestration = .ok built) {field : FieldDefinition}
    (member : field ∈ orchestration.fieldsByTag) :
    built.lookup field.id = none ∨
      built.lookup field.id = some (definition orchestration field) := by
  obtain ⟨position, here⟩ := List.getElem?_of_mem (mem_sortedFields.mpr member)
  rw [lookup_table constructed, findIdx?_sortedFields here]
  simp only
  rw [List.getElem?_take]
  by_cases within : position < 3001
  · rw [if_pos within, here]
    exact .inr rfl
  · rw [if_neg within]
    exact .inl rfl

theorem indexOf_id {orchestration : Orchestration} {field : FieldDefinition}
    (member : field ∈ orchestration.fieldsByTag) :
    OrchestrationFieldCollection.indexOf (Int32.ofNat field.id) = field.id := by
  have bounds := orchestration.bounded field member
  have value := Int32.toInt_ofNat_of_lt (show field.id < 2 ^ 31 by omega)
  unfold OrchestrationFieldCollection.indexOf
  rw [if_neg, value, Int.toNat_natCast]
  rw [Int32.lt_iff_toInt_lt, value]
  change ¬ (field.id : Int) < 0
  omega

/-- Of more than 3001 fields, the one that the second loop leaves out first
cannot be looked up. -/
theorem lost_field {orchestration : Orchestration}
    (many : 3001 < orchestration.fieldsByTag.length) {built : FieldTable}
    (constructed : table orchestration = .ok built) :
    ∃ field ∈ orchestration.fieldsByTag, built.lookup field.id = none := by
  rw [← length_sortedFields] at many
  have here := List.getElem?_eq_getElem many
  have beyond : ((sortedFields orchestration).take 3001)[3001]? = none := by
    apply List.getElem?_eq_none
    rw [List.length_take]
    omega
  refine ⟨(sortedFields orchestration)[3001],
    mem_sortedFields.mp (List.getElem_mem many), ?_⟩
  rw [lookup_table constructed, findIdx?_sortedFields here]
  simp only
  rw [beyond]
  rfl

theorem agrees_iff (orchestration : Orchestration) :
    Agrees orchestration ↔ orchestration.fieldsByTag ≠ [] ∧
      orchestration.fieldsByTag.length ≤ 3001 := by
  constructor
  · rintro ⟨-, built, constructed, defined, -⟩
    constructor
    · intro empty
      exact not_built_of_empty empty built constructed
    · by_contra many
      obtain ⟨field, member, lost⟩ := lost_field (by omega) constructed
      have found := defined field member
      unfold FieldTable.get at found
      rw [lost] at found
      cases found
  · rintro ⟨some, few⟩
    exact agrees_of_bounded some few

/-- The dictionary of the message layer defines every field of the
orchestration, with the right kind of data. -/
theorem Agrees.defines {orchestration : Orchestration}
    (agrees : Agrees orchestration) {field : FieldDefinition}
    (member : field ∈ orchestration.fieldsByTag) :
    ∃ built, table orchestration = .ok built ∧
      built.collection.Defines (Int32.ofNat field.id)
        (definition orchestration field).isData := by
  obtain ⟨-, built, constructed, defined, -⟩ := agrees
  refine ⟨built, constructed, (definition orchestration field).toOrchestrationField,
    FieldTable.get_collection ?_, rfl, rfl⟩
  rw [indexOf_id member]
  have found := defined field member
  unfold FieldTable.get at found
  cases looked : built.lookup field.id with
  | none =>
      rw [looked] at found
      cases found
  | some other =>
      rw [looked] at found
      injection found with same
      rw [same]

/-! ### More fields than the second loop writes -/

def crowded : Orchestration where
  dataTypes := [ascii "String"]
  codeSets := []
  fieldsByTag := (List.range 3002).map fun index =>
    ⟨index + 1, [], ascii "String"⟩
  distinct := by
    rw [List.map_map]
    apply List.Nodup.map _ List.nodup_range
    intro left right same
    exact Nat.succ.inj same
  bounded := by
    intro field member
    obtain ⟨index, inside, rfl⟩ := List.mem_map.mp member
    have := List.mem_range.mp inside
    constructor
    · simp only
      omega
    · simp only
      omega
  typed := by
    intro field member
    obtain ⟨index, -, rfl⟩ := List.mem_map.mp member
    exact .inl List.mem_cons_self

theorem crowded_disagrees :
    (∃ built, table crowded = .ok built ∧ ∃ field ∈ crowded.fieldsByTag,
      ∃ text, built.get field.id = .error ⟨.outOfRange, text⟩) ∧
    ¬ Agrees crowded := by
  have many : 3001 < crowded.fieldsByTag.length := by
    unfold crowded
    rw [List.length_map, List.length_range]
    omega
  constructor
  · have some : crowded.fieldsByTag ≠ [] := by
      intro empty
      rw [empty] at many
      exact absurd many (by decide)
    obtain ⟨built, constructed⟩ := table_built some
    obtain ⟨field, member, lost⟩ := lost_field many constructed
    refine ⟨built, constructed, field, member, ?_⟩
    unfold FieldTable.get
    rw [lost]
    exact ⟨_, rfl⟩
  · rintro ⟨-, built, constructed, defined, -⟩
    obtain ⟨field, member, lost⟩ := lost_field many constructed
    have found := defined field member
    unfold FieldTable.get at found
    rw [lost] at found
    cases found

end Lexicographer

end Crocofix
