/-
Encoding of a message into a buffer of limited size.

The BodyLength and CheckSum fields are rewritten in the message before they are
encoded.  Nothing after the CheckSum field is encoded.  An encoding that does
not fit returns zero, and leaves what it had stored in the buffer behind.
-/

import Crocofix.Decode

namespace Crocofix

open Numeral

namespace Encode

open Decode (valueSeparator fieldSeparator)

/-- The private `message::encode` of one field.  `written` is what the buffer
holds in front of `current`.  The error is the null pointer, with what the
buffer then holds. -/
def encodeField (capacity : Nat) (written : Bytes) (field : Field) :
    Except Bytes Bytes :=
  let tagged := written ++ decimalInt field.tag.toInt
  if capacity < tagged.length then .error written
  else if capacity ≤ tagged.length then .error tagged
  else
    let separated := tagged ++ [valueSeparator]
    if capacity ≤ separated.length then .error separated
    else if capacity ≤ separated.length + field.value.length then
      .error separated
    else .ok (separated ++ field.value ++ [fieldSeparator])

/-- What `message::encode` returns or throws, the fields of the message
afterwards, and what the buffer holds from its start. -/
structure Outcome where
  result : Except Exception Nat
  fields : FieldCollection
  written : Bytes

/-- The field that the loop encodes in place of a CheckSum field, and the
fields of the message once it is set; nothing where `set` finds no field to
replace. -/
def checksumField (fields : FieldCollection) (written : Bytes) :
    Except Exception (Option (Field × FieldCollection)) :=
  match Checksum.formatChecksum (Checksum.calculateChecksum written) with
  | .error exception => .error exception
  | .ok value =>
      match fields.set ⟨Tag.CheckSum, value⟩ .replaceFirst with
      | (true, updated) => .ok (some (⟨Tag.CheckSum, value⟩, updated))
      | (false, _) => .ok none

def loop (setChecksum : Bool) (capacity : Nat) (fields : FieldCollection) :
    FieldCollection → Bytes → Outcome
  | [], written => ⟨.ok written.length, fields, written⟩
  | field :: rest, written =>
      let next : Except Exception (Option (Field × FieldCollection)) :=
        if field.tag = Tag.CheckSum ∧ setChecksum then
          checksumField fields written
        else .ok none
      match next with
      | .error exception => ⟨.error exception, fields, written⟩
      | .ok (some (last, updated)) =>
          match encodeField capacity written last with
          | .error touched => ⟨.ok 0, updated, touched⟩
          | .ok encoded => ⟨.ok encoded.length, updated, encoded⟩
      | .ok none =>
          match encodeField capacity written field with
          | .error touched => ⟨.ok 0, fields, touched⟩
          | .ok encoded => loop setChecksum capacity fields rest encoded

end Encode

/-- The fields once the body length is set. -/
def Message.withBodyLength (message : Message) (options : EncodeOptions) :
    FieldCollection :=
  if options.setBodyLength then
    message.fields.put (Field.ofUInt32 Tag.BodyLength message.calculateBodyLength)
  else message.fields

theorem Message.calculateBodyLength_withBodyLength (message : Message)
    (options : EncodeOptions) :
    bodyLengthLoop false 0 (message.withBodyLength options) =
      message.calculateBodyLength := by
  unfold withBodyLength
  split
  · exact bodyLengthLoop_put_bodyLength _ 0 message.fields
  · rfl

/-- `message::encode` into a buffer of `capacity` bytes. -/
def Message.encode (message : Message) (capacity : Nat)
    (options : EncodeOptions) : Except Exception Nat × Message × Bytes :=
  let fields := message.withBodyLength options
  let outcome := Encode.loop options.setChecksum capacity fields fields []
  (outcome.result, { message with fields := outcome.fields }, outcome.written)

namespace Encode

open Decode (valueSeparator fieldSeparator)

/-! ### What a successful encoding stores -/

def wire (field : Field) : Bytes :=
  decimalInt field.tag.toInt ++ valueSeparator :: (field.value ++ [fieldSeparator])

theorem wire_length (field : Field) :
    (wire field).length =
      (decimalInt field.tag.toInt).length + field.value.length + 2 := by
  simp only [wire, List.length_append, List.length_cons, List.length_nil]
  omega

theorem encodeField_of_le {capacity : Nat} {written : Bytes} {field : Field}
    (fits : (written ++ wire field).length ≤ capacity) :
    encodeField capacity written field = .ok (written ++ wire field) := by
  simp only [List.length_append, wire_length] at fits
  simp only [encodeField, List.length_append, List.length_cons, List.length_nil]
  rw [if_neg (by omega), if_neg (by omega), if_neg (by omega),
    if_neg (by omega)]
  simp [wire]

theorem encodeField_ok {capacity : Nat} {written encoded : Bytes}
    {field : Field} (stored : encodeField capacity written field = .ok encoded) :
    encoded = written ++ wire field ∧ encoded.length ≤ capacity := by
  simp only [encodeField] at stored
  split at stored
  · contradiction
  · split at stored
    · contradiction
    · split at stored
      · contradiction
      · split at stored
        · contradiction
        · next fits =>
            injection stored with same
            subst same
            refine ⟨by simp [wire], ?_⟩
            simp only [List.length_append, List.length_cons,
              List.length_nil] at fits ⊢
            omega

/-- A field that does not fit leaves a part of itself behind, inside the
buffer. -/
theorem encodeField_error {capacity : Nat} {written touched : Bytes}
    {field : Field} (within : written.length ≤ capacity)
    (full : encodeField capacity written field = .error touched) :
    ∃ part, touched = written ++ part ∧ touched.length ≤ capacity := by
  simp only [encodeField] at full
  split at full
  · injection full with same
    exact ⟨[], by simp [← same], by rwa [← same]⟩
  · next taggedFits =>
      split at full
      · injection full with same
        exact ⟨_, same.symm, by rw [← same]; omega⟩
      · next room =>
          have separatedFits : (written ++ decimalInt field.tag.toInt ++
              [valueSeparator]).length ≤ capacity := by
            rw [List.length_append, List.length_singleton]
            omega
          split at full
          · injection full with same
            exact ⟨_, by rw [← same, List.append_assoc], by rwa [← same]⟩
          · split at full
            · injection full with same
              exact ⟨_, by rw [← same, List.append_assoc], by rwa [← same]⟩
            · contradiction

/-- Fields that the encoder does not rewrite: they are all stored, or the
encoding does not fit. -/
theorem loop_append (setChecksum : Bool) {front : FieldCollection}
    (plain : ∀ field ∈ front, ¬ (field.tag = Tag.CheckSum ∧ setChecksum))
    (capacity : Nat) (fields rest : FieldCollection) (written : Bytes) :
    loop setChecksum capacity fields (front ++ rest) written =
        loop setChecksum capacity fields rest (written ++ front.flatMap wire) ∨
      (loop setChecksum capacity fields (front ++ rest) written).result =
        .ok 0 := by
  induction front generalizing written with
  | nil => simp
  | cons field front ih =>
      have here := plain field List.mem_cons_self
      rw [List.cons_append, loop, if_neg here]
      simp only
      cases stored : encodeField capacity written field with
      | error touched => exact .inr rfl
      | ok encoded =>
          obtain ⟨rfl, -⟩ := encodeField_ok stored
          simp only [List.flatMap_cons, ← List.append_assoc]
          exact ih (fun other member => plain other (List.mem_cons_of_mem _ member))
            (written ++ wire field)

theorem loop_append_of_le (setChecksum : Bool) {front : FieldCollection}
    (plain : ∀ field ∈ front, ¬ (field.tag = Tag.CheckSum ∧ setChecksum))
    {capacity : Nat} (fields rest : FieldCollection) {written : Bytes}
    (fits : (written ++ front.flatMap wire).length ≤ capacity) :
    loop setChecksum capacity fields (front ++ rest) written =
      loop setChecksum capacity fields rest (written ++ front.flatMap wire) := by
  induction front generalizing written with
  | nil => simp
  | cons field front ih =>
      have here := plain field List.mem_cons_self
      rw [List.flatMap_cons, ← List.append_assoc] at fits ⊢
      have fieldFits : (written ++ wire field).length ≤ capacity := by
        rw [List.length_append] at fits
        omega
      rw [List.cons_append, loop, if_neg here, encodeField_of_le fieldFits]
      exact ih (fun other member => plain other (List.mem_cons_of_mem _ member)) fits

theorem set_replaceFirst_of_mem {fields : FieldCollection} (field : Field)
    {old : Field}
    (member : old ∈ fields) (same : old.tag = field.tag) :
    ∃ updated, FieldCollection.replaceFirst fields field = some updated ∧
      fields.set field .replaceFirst = (true, updated) := by
  cases found : FieldCollection.replaceFirst fields field with
  | none =>
      have absent :=
        (FieldCollection.replaceFirst_eq_none_iff fields field).mp found
      have missing := List.find?_eq_none.mp absent old member
      simp [same] at missing
  | some updated => exact ⟨updated, rfl, by simp [FieldCollection.set, found]⟩

theorem loop_checksum (capacity : Nat) (fields : FieldCollection) {last : Field}
    (rest : FieldCollection) {written value : Bytes} (member : last ∈ fields)
    (checksum : last.tag = Tag.CheckSum)
    (formatted :
      Checksum.formatChecksum (Checksum.calculateChecksum written) = .ok value) :
    ∃ updated, FieldCollection.replaceFirst fields ⟨Tag.CheckSum, value⟩ =
        some updated ∧
      loop true capacity fields (last :: rest) written =
        match encodeField capacity written ⟨Tag.CheckSum, value⟩ with
        | .error touched => ⟨.ok 0, updated, touched⟩
        | .ok encoded => ⟨.ok encoded.length, updated, encoded⟩ := by
  obtain ⟨updated, replaced, stored⟩ :=
    set_replaceFirst_of_mem ⟨Tag.CheckSum, value⟩ member checksum
  refine ⟨updated, replaced, ?_⟩
  have next : checksumField fields written =
      .ok (some (⟨Tag.CheckSum, value⟩, updated)) := by
    simp only [checksumField, formatted, stored]
  rw [loop, if_pos ⟨checksum, rfl⟩, next]

theorem loop_checksum_error {capacity : Nat} {fields : FieldCollection}
    {last : Field} (rest : FieldCollection) {written : Bytes}
    {exception : Exception} (checksum : last.tag = Tag.CheckSum)
    (refused : Checksum.formatChecksum (Checksum.calculateChecksum written) =
      .error exception) :
    loop true capacity fields (last :: rest) written =
      ⟨.error exception, fields, written⟩ := by
  have next : checksumField fields written = .error exception := by
    simp only [checksumField, refused]
  rw [loop, if_pos ⟨checksum, rfl⟩, next]

/-! ### Limits -/

/-- The loop stays inside the buffer, and a size that it returns other than
zero is the number of bytes stored. -/
theorem loop_within {setChecksum : Bool} {capacity : Nat}
    {fields rest : FieldCollection} {written : Bytes}
    (within : written.length ≤ capacity) :
    (loop setChecksum capacity fields rest written).written.length ≤ capacity ∧
      ∀ size, (loop setChecksum capacity fields rest written).result = .ok size →
        size = 0 ∨
          size = (loop setChecksum capacity fields rest written).written.length := by
  induction rest generalizing written with
  | nil =>
      refine ⟨within, ?_⟩
      intro size stored
      injection stored with same
      exact .inr same.symm
  | cons field rest ih =>
      unfold loop
      simp only
      split
      · refine ⟨within, ?_⟩
        intro size stored
        cases stored
      · next last updated _ =>
          cases stored : encodeField capacity written last with
          | error touched =>
              obtain ⟨part, -, bounded⟩ := encodeField_error within stored
              refine ⟨bounded, ?_⟩
              intro size zero
              injection zero with same
              exact .inl same.symm
          | ok encoded =>
              refine ⟨(encodeField_ok stored).2, ?_⟩
              intro size result
              injection result with same
              exact .inr same.symm
      · cases stored : encodeField capacity written field with
        | error touched =>
            obtain ⟨part, -, bounded⟩ := encodeField_error within stored
            refine ⟨bounded, ?_⟩
            intro size zero
            injection zero with same
            exact .inl same.symm
        | ok encoded => exact ih (encodeField_ok stored).2

theorem encode_within (message : Message) (capacity : Nat)
    (options : EncodeOptions) :
    (message.encode capacity options).2.2.length ≤ capacity ∧
      ∀ size, (message.encode capacity options).1 = .ok size →
        size = 0 ∨ size = (message.encode capacity options).2.2.length :=
  loop_within (Nat.zero_le capacity)

end Encode

end Crocofix
