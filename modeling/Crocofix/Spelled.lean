/-
Fields as they are spelled.

The decoder takes a field off the front of the bytes when its tag is followed
by a value that is framed: by the next separator, or by the length in the field
before it.  Which text stands for the tag does not matter to that.
-/

import Crocofix.DecodeRestart
import Crocofix.Encode

namespace Crocofix

open Numeral

namespace Encode

open Decode (valueSeparator fieldSeparator)

/-- A field with the text in front of its '='. -/
structure Spelled where
  text : Bytes
  field : Field

def Spelled.bytes (spelled : Spelled) : Bytes :=
  spelled.text ++
    valueSeparator :: (spelled.field.value ++ [fieldSeparator])

def Spelled.canonical (field : Field) : Spelled :=
  ⟨decimalInt field.tag.toInt, field⟩

theorem bytes_canonical (field : Field) :
    (Spelled.canonical field).bytes = wire field := rfl

/-- How the decoder finds the end of a field, behind the given one. -/
inductive Framed (dictionary : OrchestrationFieldCollection)
    (previous : Option Field) (field : Field) : Prop
  | text (definition : OrchestrationField)
      (found : dictionary.get field.tag = .ok definition)
      (isText : definition.isData = false)
      (plain : fieldSeparator ∉ field.value)
  | data (definition : OrchestrationField)
      (found : dictionary.get field.tag = .ok definition)
      (isData : definition.isData = true) (before : Field) (length : Int32)
      (last : previous = some before) (numeric : stoi before.value = .ok length)
      (same : length.toInt = field.value.length)

/-- The bytes hold a field that the decoder takes, behind the given one. -/
structure Complete (dictionary : OrchestrationFieldCollection)
    (previous : Option Field) (spelled : Spelled) : Prop where
  plain : valueSeparator ∉ spelled.text
  parsed : fromChars spelled.text = some spelled.field.tag
  framed : Framed dictionary previous spelled.field

/-! ### Taking a field -/

theorem idxOf_of_not_mem {byte : UInt8} {front : Bytes} (more : Bytes)
    (absent : byte ∉ front) :
    (front ++ byte :: more).idxOf byte = front.length := by
  rw [List.idxOf_append_of_notMem absent, List.idxOf_cons_self, Nat.add_zero]

theorem Spelled.bytes_length (spelled : Spelled) :
    spelled.bytes.length = spelled.text.length + spelled.field.value.length + 2 := by
  simp only [Spelled.bytes, List.length_append, List.length_cons, List.length_nil]
  omega

theorem Spelled.bytes_append (spelled : Spelled) (more : Bytes) :
    spelled.bytes ++ more = spelled.text ++
      valueSeparator :: (spelled.field.value ++ fieldSeparator :: more) := by
  simp [Spelled.bytes]

theorem Spelled.drop_bytes (spelled : Spelled) (more : Bytes) :
    (spelled.bytes ++ more).drop (spelled.text.length + 1) =
      spelled.field.value ++ fieldSeparator :: more := by
  rw [spelled.bytes_append, ← List.drop_drop, List.drop_left, List.drop_succ_cons,
    List.drop_zero]

theorem readTag_of_parsed {dictionary : OrchestrationFieldCollection}
    {definition : OrchestrationField} {text : Bytes} {tag : Int32}
    (plain : valueSeparator ∉ text) (parsed : fromChars text = some tag)
    (found : dictionary.get tag = .ok definition) (more : Bytes) :
    Decode.readTag dictionary (text ++ valueSeparator :: more) =
      some (.ok (tag, definition.isData)) := by
  have position := idxOf_of_not_mem more plain
  have inside : text.length ≠ (text ++ valueSeparator :: more).length := by
    rw [List.length_append, List.length_cons]
    omega
  simp only [Decode.readTag, position, if_neg inside, List.take_left, parsed, found]

theorem textField_spelled {spelled : Spelled} (more : Bytes)
    (plain : fieldSeparator ∉ spelled.field.value) :
    Decode.textField (spelled.bytes ++ more) spelled.text.length
        spelled.field.tag =
      .decoded spelled.field spelled.bytes.length := by
  have position := idxOf_of_not_mem more plain
  have inside : spelled.field.value.length ≠
      (spelled.field.value ++ fieldSeparator :: more).length := by
    rw [List.length_append, List.length_cons]
    omega
  have size : spelled.text.length + 1 + spelled.field.value.length + 1 =
      spelled.bytes.length := by
    rw [spelled.bytes_length]
    omega
  simp only [Decode.textField, spelled.drop_bytes, position, if_neg inside, size,
    List.take_left]

theorem framedField_spelled (spelled : Spelled) (more : Bytes) :
    Decode.framedField (spelled.bytes ++ more) spelled.text.length
        spelled.field.tag spelled.field.value.length =
      .decoded spelled.field spelled.bytes.length := by
  have separator : (spelled.bytes ++ more)[spelled.text.length +
      spelled.field.value.length + 1]? = some fieldSeparator := by
    have shifted : spelled.text.length + spelled.field.value.length + 1 =
        spelled.text.length + 1 + spelled.field.value.length := by omega
    rw [shifted, ← List.getElem?_drop, spelled.drop_bytes]
    simp
  have size : spelled.text.length + spelled.field.value.length + 2 =
      spelled.bytes.length := spelled.bytes_length.symm
  simp only [Decode.framedField, separator, spelled.drop_bytes, size, List.take_left,
    ne_eq, not_true_eq_false, if_false]

/-- A complete field is decoded, whatever surrounds it. -/
theorem nextField_of_complete {dictionary : OrchestrationFieldCollection}
    {fields : FieldCollection} {spelled : Spelled}
    (complete : Complete dictionary fields.getLast? spelled) (seen more : Bytes) :
    Decode.negativeLength dictionary fields (spelled.bytes ++ more) = false ∧
      Decode.nextField dictionary fields seen (spelled.bytes ++ more) =
        .decoded spelled.field spelled.bytes.length := by
  have position : (spelled.bytes ++ more).idxOf valueSeparator =
      spelled.text.length := by
    rw [spelled.bytes_append]
    exact idxOf_of_not_mem _ complete.plain
  unfold Decode.negativeLength Decode.nextField
  cases complete.framed with
  | text definition found isText plain =>
      have read := readTag_of_parsed complete.plain complete.parsed found
        (spelled.field.value ++ fieldSeparator :: more)
      rw [← spelled.bytes_append, isText] at read
      rw [read, position]
      exact ⟨rfl, textField_spelled more plain⟩
  | data definition found isData before length last numeric same =>
      have read := readTag_of_parsed complete.plain complete.parsed found
        (spelled.field.value ++ fieldSeparator :: more)
      rw [← spelled.bytes_append, isData] at read
      have nonneg : ¬ length < 0 := by
        rw [Int32.lt_iff_toInt_lt, same]
        simp
      have value : length.toInt.toNat = spelled.field.value.length := by omega
      rw [read, position]
      refine ⟨by simpa [Decode.lastIsNegative, last, numeric] using nonneg, ?_⟩
      simp only
      rw [Decode.dataField_eq_framedField _ _ _ _ last numeric nonneg, value]
      exact framedField_spelled spelled more

/-! ### What was decoded was spelled -/

theorem take_of_separators {rest : Bytes} {equals length : Nat}
    (separates : rest[equals]? = some valueSeparator)
    (ends : rest[equals + length + 1]? = some fieldSeparator) :
    rest.take (equals + length + 2) =
      rest.take equals ++
        valueSeparator :: ((rest.drop (equals + 1)).take length ++
          [fieldSeparator]) := by
  have value : (rest.drop (equals + 1))[length]? = some fieldSeparator := by
    rw [List.getElem?_drop, ← ends]
    congr 1
    omega
  have split : rest.take (equals + 1) = rest.take equals ++ [valueSeparator] := by
    rw [List.take_add_one, separates]
    rfl
  have total : equals + length + 2 = equals + 1 + (length + 1) := by omega
  rw [total, List.take_add, split, List.take_add_one, value]
  simp

structure ReadsTag (dictionary : OrchestrationFieldCollection) (rest : Bytes)
    (equals : Nat) (tag : Int32) (definition : OrchestrationField) : Prop where
  plain : valueSeparator ∉ rest.take equals
  parsed : fromChars (rest.take equals) = some tag
  found : dictionary.get tag = .ok definition
  separates : rest[equals]? = some valueSeparator

theorem readTag_spelled {dictionary : OrchestrationFieldCollection} {rest : Bytes}
    {tag : Int32} {isData : Bool}
    (read : Decode.readTag dictionary rest = some (.ok (tag, isData))) :
    ∃ definition, definition.isData = isData ∧
      ReadsTag dictionary rest (rest.idxOf valueSeparator) tag definition := by
  have within := Decode.readTag_within read
  have member := List.idxOf_lt_length_iff.mp within
  have plain : valueSeparator ∉ rest.take (rest.idxOf valueSeparator) := by
    intro early
    have before := (List.mem_take_iff_idxOf_lt member).mp early
    omega
  have separates : rest[rest.idxOf valueSeparator]? = some valueSeparator := by
    rw [List.getElem?_eq_getElem within, List.getElem_idxOf]
  unfold Decode.readTag at read
  simp only [if_neg (Nat.ne_of_lt within)] at read
  split at read
  · cases read
  · next parsed =>
      split at read
      · cases read
      · next definition found =>
          injection read with same
          injection same with pair
          injection pair with tagEq isDataEq
          rw [tagEq] at found parsed
          exact ⟨definition, isDataEq, plain, parsed, found, separates⟩

theorem framedField_inv {rest : Bytes} {equals length size : Nat} {tag : Int32}
    {field : Field}
    (decoded : Decode.framedField rest equals tag length = .decoded field size) :
    field = ⟨tag, (rest.drop (equals + 1)).take length⟩ ∧
      rest[equals + length + 1]? = some fieldSeparator ∧
      size = equals + length + 2 := by
  unfold Decode.framedField at decoded
  split at decoded
  · cases decoded
  · next byte ends =>
      split at decoded
      · cases decoded
      · next closes =>
          injection decoded with fieldEq sizeEq
          rw [not_not.mp closes] at ends
          exact ⟨fieldEq.symm, ends, sizeEq.symm⟩

/-- A field that is decoded was complete, and takes the bytes of its spelling. -/
theorem complete_of_nextField {dictionary : OrchestrationFieldCollection}
    {fields : FieldCollection} {seen rest : Bytes} {field : Field} {size : Nat}
    (decoded : Decode.nextField dictionary fields seen rest = .decoded field size) :
    ∃ text, Complete dictionary fields.getLast? ⟨text, field⟩ ∧
      rest.take size = Spelled.bytes ⟨text, field⟩ := by
  unfold Decode.nextField at decoded
  cases read : Decode.readTag dictionary rest with
  | none => simp [read] at decoded
  | some result =>
      rcases result with exception | ⟨tag, isData⟩
      · simp [read] at decoded
      · obtain ⟨definition, kind, tags⟩ := readTag_spelled read
        have within := Decode.readTag_within read
        generalize rest.idxOf valueSeparator = equals at *
        cases isData with
        | false =>
            simp only [read, Decode.textField] at decoded
            split at decoded
            · cases decoded
            · next found =>
                injection decoded with fieldEq sizeEq
                have inside : (rest.drop (equals + 1)).idxOf fieldSeparator <
                    (rest.drop (equals + 1)).length :=
                  Nat.lt_of_le_of_ne List.idxOf_le_length found
                have member := List.idxOf_lt_length_iff.mp inside
                have ends : (rest.drop (equals + 1))[(rest.drop
                    (equals + 1)).idxOf fieldSeparator]? = some fieldSeparator := by
                  rw [List.getElem?_eq_getElem inside, List.getElem_idxOf]
                have plain : fieldSeparator ∉ (rest.drop (equals + 1)).take
                    ((rest.drop (equals + 1)).idxOf fieldSeparator) := by
                  intro early
                  have before := (List.mem_take_iff_idxOf_lt member).mp early
                  omega
                generalize (rest.drop (equals + 1)).idxOf fieldSeparator =
                  delimiter at *
                rw [List.getElem?_drop] at ends
                have position : equals + 1 + delimiter = equals + delimiter + 1 := by
                  omega
                rw [position] at ends sizeEq
                subst fieldEq sizeEq
                exact ⟨rest.take equals,
                  ⟨tags.plain, tags.parsed, .text definition tags.found kind plain⟩,
                  take_of_separators tags.separates ends⟩
        | true =>
            simp only [read] at decoded
            cases last : fields.getLast? with
            | none =>
                simp only [Decode.dataField, last] at decoded
                cases decoded
            | some before =>
                cases numeric : stoi before.value with
                | error exception =>
                    simp only [Decode.dataField, last, numeric] at decoded
                    cases decoded
                | ok length =>
                    by_cases negative : length < 0
                    · obtain ⟨fault, outcome⟩ := Decode.dataField_of_neg seen rest tag
                        last numeric negative within
                      rw [outcome] at decoded
                      cases decoded
                    · rw [Decode.dataField_eq_framedField _ _ _ _ last numeric
                        negative] at decoded
                      obtain ⟨valueEq, ends, sizeEq⟩ := framedField_inv decoded
                      subst sizeEq
                      rw [valueEq]
                      have sign : 0 ≤ length.toInt := by
                        simpa [Int32.lt_iff_toInt_lt] using negative
                      have inside := (List.getElem?_eq_some_iff.mp ends).1
                      have same : length.toInt = ((rest.drop (equals + 1)).take
                          length.toInt.toNat).length := by
                        rw [List.length_take, List.length_drop]
                        omega
                      exact ⟨rest.take equals,
                        ⟨tags.plain, tags.parsed, .data definition tags.found kind
                          before length rfl numeric same⟩,
                        take_of_separators tags.separates ends⟩

theorem split_of_nextField {dictionary : OrchestrationFieldCollection}
    {fields : FieldCollection} {seen rest : Bytes} {field : Field} {size : Nat}
    (decoded : Decode.nextField dictionary fields seen rest = .decoded field size) :
    ∃ spelled more, spelled.field = field ∧
      Complete dictionary fields.getLast? spelled ∧
      rest = spelled.bytes ++ more ∧ size = spelled.bytes.length := by
  obtain ⟨text, complete, bytes⟩ := complete_of_nextField decoded
  have again := (nextField_of_complete complete seen (rest.drop size)).2
  have shape : rest = Spelled.bytes ⟨text, field⟩ ++ rest.drop size := by
    rw [← bytes, List.take_append_drop]
  rw [← shape, decoded] at again
  injection again with _ sizeEq
  exact ⟨⟨text, field⟩, rest.drop size, rfl, complete, shape, sizeEq⟩

end Encode

end Crocofix
