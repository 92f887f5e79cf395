/-
The size of an encoding.

The four bound checks of the encoder add up to one: an encoding is stored if
and only if all the bytes of its fields fit.
-/

import Crocofix.Encode

namespace Crocofix

open Numeral

namespace Encode

/-! ### The fields that are written -/

/-- All of the fields, or those up to and including the first CheckSum field
where its value is set. -/
def toWrite (setChecksum : Bool) : FieldCollection → FieldCollection
  | [] => []
  | field :: rest =>
      if field.tag = Tag.CheckSum ∧ setChecksum then [field]
      else field :: toWrite setChecksum rest

/-- A tag, a value, which has three digits in a CheckSum that is set, and two
separators. -/
def fieldLength (setChecksum : Bool) (field : Field) : Nat :=
  let valueLength :=
    if field.tag = Tag.CheckSum ∧ setChecksum then 3 else field.value.length
  (decimalInt field.tag.toInt).length + valueLength + 2

def encodedLength (setChecksum : Bool) (fields : FieldCollection) : Nat :=
  ((toWrite setChecksum fields).map (fieldLength setChecksum)).sum

/-- The field without a value that the encoder computes. -/
def withoutComputed (field : Field) : Field :=
  if field.tag = Tag.BodyLength ∨ field.tag = Tag.CheckSum then ⟨field.tag, []⟩
  else field

theorem encodeField_of_lt {capacity : Nat} {written : Bytes} {field : Field}
    (full : capacity < (written ++ wire field).length) :
    ∃ touched, encodeField capacity written field = .error touched := by
  cases stored : encodeField capacity written field with
  | error touched => exact ⟨touched, rfl⟩
  | ok encoded =>
      obtain ⟨rfl, fits⟩ := encodeField_ok stored
      omega

/-! ### Fields in front of the CheckSum -/

section plain

variable {setChecksum : Bool} {front : FieldCollection}

theorem toWrite_append
    (plain : ∀ field ∈ front, ¬ (field.tag = Tag.CheckSum ∧ setChecksum))
    (rest : FieldCollection) :
    toWrite setChecksum (front ++ rest) = front ++ toWrite setChecksum rest := by
  induction front with
  | nil => rfl
  | cons field front ih =>
      have later := ih fun other member =>
        plain other (List.mem_cons_of_mem _ member)
      rw [List.cons_append, toWrite, if_neg (plain field List.mem_cons_self), later]
      rfl

theorem sum_fieldLength
    (plain : ∀ field ∈ front, ¬ (field.tag = Tag.CheckSum ∧ setChecksum)) :
    (front.map (fieldLength setChecksum)).sum = (front.flatMap wire).length := by
  have same : ∀ field ∈ front,
      fieldLength setChecksum field = (wire field).length := by
    intro field member
    rw [fieldLength, wire_length, if_neg (plain field member)]
  rw [List.length_flatMap, List.map_congr_left same]

theorem loop_append_of_lt
    (plain : ∀ field ∈ front, ¬ (field.tag = Tag.CheckSum ∧ setChecksum))
    {capacity : Nat} (fields rest : FieldCollection) {written : Bytes}
    (within : written.length ≤ capacity)
    (full : capacity < (written ++ front.flatMap wire).length) :
    (loop setChecksum capacity fields (front ++ rest) written).result = .ok 0 := by
  induction front generalizing written with
  | nil =>
      rw [List.flatMap_nil, List.append_nil] at full
      omega
  | cons field front ih =>
      have here := plain field List.mem_cons_self
      rw [List.cons_append, loop, if_neg here]
      simp only
      cases stored : encodeField capacity written field with
      | error touched => rfl
      | ok encoded =>
          obtain ⟨rfl, fits⟩ := encodeField_ok stored
          rw [List.flatMap_cons, ← List.append_assoc] at full
          exact ih (fun other member => plain other (List.mem_cons_of_mem _ member))
            fits full

/-- Either the encoder sets no CheckSum, or it stops at the first one. -/
theorem checkSum_cases (setChecksum : Bool) (fields : FieldCollection) :
    (∀ field ∈ fields, ¬ (field.tag = Tag.CheckSum ∧ setChecksum)) ∨
      setChecksum = true ∧ ∃ front last more, fields = front ++ last :: more ∧
        (∀ field ∈ front, field.tag ≠ Tag.CheckSum) ∧ last.tag = Tag.CheckSum := by
  induction fields with
  | nil => exact .inl fun field member => absurd member List.not_mem_nil
  | cons field rest ih =>
      by_cases here : field.tag = Tag.CheckSum ∧ setChecksum
      · exact .inr ⟨here.2, [], field, rest, rfl, by simp, here.1⟩
      · rcases ih with plain | ⟨sets, front, last, more, rfl, others, checksum⟩
        · exact .inl (List.forall_mem_cons.mpr ⟨here, plain⟩)
        · have other : field.tag ≠ Tag.CheckSum := fun same => here ⟨same, sets⟩
          exact .inr ⟨sets, field :: front, last, more, rfl,
            List.forall_mem_cons.mpr ⟨other, others⟩, checksum⟩

end plain

/-! ### The whole loop -/

/-- What encoding the fields amounts to: nothing is left out and nothing is
stored in part, unless the encoder throws. -/
structure Exact (setChecksum : Bool) (capacity : Nat) (fields : FieldCollection)
    (outcome : Outcome) : Prop where
  stored : ∀ size, outcome.result = .ok size →
    encodedLength setChecksum fields ≤ capacity →
    size = encodedLength setChecksum fields ∧
      outcome.written = (toWrite setChecksum outcome.fields).flatMap wire
  full : ∀ size, outcome.result = .ok size →
    capacity < encodedLength setChecksum fields → size = 0

theorem exact_of_plain {setChecksum : Bool} (capacity : Nat)
    {fields : FieldCollection}
    (plain : ∀ field ∈ fields, ¬ (field.tag = Tag.CheckSum ∧ setChecksum)) :
    Exact setChecksum capacity fields
      (loop setChecksum capacity fields fields []) := by
  have all : toWrite setChecksum fields = fields := by
    have whole := toWrite_append plain []
    rwa [List.append_nil, toWrite, List.append_nil] at whole
  have length : encodedLength setChecksum fields = (fields.flatMap wire).length := by
    rw [encodedLength, all, sum_fieldLength plain]
  rw [← List.nil_append (fields.flatMap wire)] at length
  constructor
  · intro size returned fits
    rw [length] at fits
    have run := loop_append_of_le setChecksum plain fields [] fits
    rw [List.append_nil, loop] at run
    rw [run] at returned ⊢
    injection returned with sizeEq
    exact ⟨by rw [← sizeEq, length], by rw [all]; rfl⟩
  · intro size returned full
    rw [length] at full
    have run := loop_append_of_lt plain fields [] (Nat.zero_le capacity) full
    rw [List.append_nil, returned] at run
    injection run

theorem encodedLength_of_checkSum {front : FieldCollection} {last : Field}
    (more : FieldCollection)
    (others : ∀ field ∈ front, field.tag ≠ Tag.CheckSum)
    (checksum : last.tag = Tag.CheckSum) {value : Bytes} (digits : value.length = 3) :
    encodedLength true (front ++ last :: more) =
      (front.flatMap wire ++ wire ⟨Tag.CheckSum, value⟩).length := by
  have plain : ∀ field ∈ front, ¬ (field.tag = Tag.CheckSum ∧ true = true) :=
    fun field member both => others field member both.1
  rw [encodedLength, toWrite_append plain, toWrite, if_pos ⟨checksum, rfl⟩,
    List.map_append, List.sum_append, sum_fieldLength plain, List.map_singleton,
    List.sum_singleton, fieldLength, if_pos ⟨checksum, rfl⟩, List.length_append,
    wire_length, digits, checksum]

theorem toWrite_checkSum {front : FieldCollection} {last : Field}
    (others : ∀ field ∈ front, field.tag ≠ Tag.CheckSum)
    (checksum : last.tag = Tag.CheckSum) (more : FieldCollection) :
    toWrite true (front ++ last :: more) = front ++ [last] := by
  rw [toWrite_append fun field member both => others field member both.1, toWrite,
    if_pos ⟨checksum, rfl⟩]

/-- The encoder at the first CheckSum, once the fields in front of it are
stored. -/
theorem exact_at_checkSum {capacity : Nat} {front : FieldCollection} {last : Field}
    (more : FieldCollection) (others : ∀ field ∈ front, field.tag ≠ Tag.CheckSum)
    (checksum : last.tag = Tag.CheckSum) :
    Exact true capacity (front ++ last :: more)
      (loop true capacity (front ++ last :: more) (last :: more)
        (front.flatMap wire)) := by
  cases formatted : Checksum.formatChecksum
      (Checksum.calculateChecksum (front.flatMap wire)) with
  | error exception =>
      rw [loop_checksum_error more checksum formatted]
      constructor
      · intro size returned
        cases returned
      · intro size returned
        cases returned
  | ok value =>
      have length := encodedLength_of_checkSum more others checksum
        (Checksum.formatChecksum_length formatted)
      obtain ⟨updated, replaced, run⟩ :=
        loop_checksum capacity (front ++ last :: more) more (by simp) checksum
          formatted
      rw [FieldCollection.replaceFirst_append others checksum] at replaced
      injection replaced with updatedEq
      rw [run, ← updatedEq]
      constructor
      · intro size returned fits
        rw [length] at fits ⊢
        rw [encodeField_of_le fits] at returned ⊢
        injection returned with sizeEq
        refine ⟨sizeEq.symm, ?_⟩
        rw [toWrite_checkSum others rfl, List.flatMap_append, List.flatMap_singleton]
      · intro size returned full
        rw [length] at full
        obtain ⟨touched, stored⟩ := encodeField_of_lt full
        rw [stored] at returned
        injection returned with zero
        exact zero.symm

theorem loop_exact (setChecksum : Bool) (capacity : Nat) (fields : FieldCollection) :
    Exact setChecksum capacity fields
      (loop setChecksum capacity fields fields []) := by
  rcases checkSum_cases setChecksum fields with
    plain | ⟨rfl, front, last, more, rfl, others, checksum⟩
  · exact exact_of_plain capacity plain
  · have plain : ∀ field ∈ front, ¬ (field.tag = Tag.CheckSum ∧ true = true) :=
      fun field member both => others field member both.1
    by_cases fits : ([] ++ front.flatMap wire).length ≤ capacity
    · rw [loop_append_of_le true plain _ _ fits]
      exact exact_at_checkSum more others checksum
    · have full : capacity < ([] ++ front.flatMap wire).length := by omega
      have digits : ([0, 0, 0] : Bytes).length = 3 := rfl
      have run := loop_append_of_lt plain (front ++ last :: more) (last :: more)
        (Nat.zero_le capacity) full
      have length := encodedLength_of_checkSum more others checksum digits
      rw [List.length_append, ← List.nil_append (front.flatMap wire)] at length
      constructor
      · intro size returned small
        omega
      · intro size returned _
        rw [run] at returned
        injection returned with zero
        exact zero.symm

/-! ### Where the encoder throws -/

/-- The checksum of what stands in front of the first CheckSum cannot be
formatted. -/
structure Refuses (setChecksum : Bool) (fields : FieldCollection) : Prop where
  sets : setChecksum = true
  split : ∃ front last more exception, fields = front ++ last :: more ∧
    (∀ field ∈ front, field.tag ≠ Tag.CheckSum) ∧ last.tag = Tag.CheckSum ∧
      Checksum.formatChecksum (Checksum.calculateChecksum (front.flatMap wire)) =
        .error exception

theorem loop_returns {setChecksum : Bool} {fields : FieldCollection}
    (accepts : ¬ Refuses setChecksum fields) (capacity : Nat) :
    (loop setChecksum capacity fields fields []).result =
      .ok (if encodedLength setChecksum fields ≤ capacity then
        encodedLength setChecksum fields else 0) := by
  have exactly := loop_exact setChecksum capacity fields
  have returned : ∃ size,
      (loop setChecksum capacity fields fields []).result = .ok size := by
    rcases checkSum_cases setChecksum fields with
      plain | ⟨rfl, front, last, more, rfl, others, checksum⟩
    · rcases loop_append setChecksum plain capacity fields [] [] with stored | full
      · rw [List.append_nil] at stored
        rw [stored, loop]
        exact ⟨_, rfl⟩
      · rw [List.append_nil] at full
        exact ⟨0, full⟩
    · have plain : ∀ field ∈ front, ¬ (field.tag = Tag.CheckSum ∧ true = true) :=
        fun field member both => others field member both.1
      rcases loop_append true plain capacity (front ++ last :: more) (last :: more) []
        with stored | full
      · rw [stored, List.nil_append]
        cases formatted : Checksum.formatChecksum
            (Checksum.calculateChecksum (front.flatMap wire)) with
        | error exception =>
            exact absurd ⟨rfl, front, last, more, exception, rfl, others, checksum,
              formatted⟩ accepts
        | ok value =>
            obtain ⟨updated, -, run⟩ := loop_checksum capacity
              (front ++ last :: more) more (by simp) checksum formatted
            rw [run]
            cases encodeField capacity (front.flatMap wire) ⟨Tag.CheckSum, value⟩ with
            | error touched => exact ⟨0, rfl⟩
            | ok encoded => exact ⟨encoded.length, rfl⟩
      · exact ⟨0, full⟩
  obtain ⟨size, returned⟩ := returned
  rw [returned]
  by_cases fits : encodedLength setChecksum fields ≤ capacity
  · rw [if_pos fits, (exactly.stored size returned fits).1]
  · rw [if_neg fits, exactly.full size returned (Nat.not_le.mp fits)]

/-- An encoder that has returned a size other than zero does not throw. -/
theorem not_refuses_of_ok {setChecksum : Bool} {capacity size : Nat}
    {fields : FieldCollection}
    (returned : (loop setChecksum capacity fields fields []).result = .ok size)
    (positive : 0 < size) : ¬ Refuses setChecksum fields := by
  rintro ⟨rfl, front, last, more, exception, rfl, others, checksum, refused⟩
  have plain : ∀ field ∈ front, ¬ (field.tag = Tag.CheckSum ∧ true = true) :=
    fun field member both => others field member both.1
  rcases loop_append true plain capacity (front ++ last :: more) (last :: more) []
    with stored | full
  · rw [stored, List.nil_append, loop_checksum_error more checksum refused] at returned
    cases returned
  · rw [full] at returned
    injection returned with zero
    omega

/-! ### What the encoder leaves in the message -/

theorem map_withoutComputed_put {fields : FieldCollection} {field : Field}
    (computed : field.tag = Tag.BodyLength ∨ field.tag = Tag.CheckSum) :
    (fields.put field).map withoutComputed = fields.map withoutComputed := by
  unfold FieldCollection.put FieldCollection.set
  cases found : FieldCollection.replaceFirst fields field with
  | none => rfl
  | some replaced =>
      obtain ⟨front, old, more, rfl, rfl, same, others⟩ :=
        FieldCollection.exists_of_replaceFirst found
      have blank : withoutComputed field = withoutComputed old := by
        rw [withoutComputed, withoutComputed, same, if_pos computed, if_pos computed]
      simp [blank]

theorem map_withoutComputed_withBodyLength (message : Message)
    (options : EncodeOptions) :
    (message.withBodyLength options).map withoutComputed =
      message.fields.map withoutComputed := by
  unfold Message.withBodyLength
  split
  · exact map_withoutComputed_put (.inl rfl)
  · rfl

theorem put_of_checksumField {fields updated : FieldCollection} {written : Bytes}
    {last : Field} (next : checksumField fields written = .ok (some (last, updated))) :
    last.tag = Tag.CheckSum ∧ fields.put last = updated := by
  unfold checksumField at next
  split at next
  · cases next
  · next value _ =>
      split at next
      · next replaced set =>
          injection next with both
          injection both with pair
          injection pair with lastEq updatedEq
          rw [← lastEq, ← updatedEq, FieldCollection.put, set]
          exact ⟨rfl, rfl⟩
      · cases next

/-- The loop puts a checksum in its place, or it leaves the fields alone. -/
theorem loop_fields (setChecksum : Bool) (capacity : Nat)
    (fields rest : FieldCollection) (written : Bytes) :
    (loop setChecksum capacity fields rest written).fields = fields ∨
      setChecksum = true ∧ ∃ last : Field, last.tag = Tag.CheckSum ∧
        (loop setChecksum capacity fields rest written).fields = fields.put last := by
  induction rest generalizing written with
  | nil => exact .inl rfl
  | cons field rest ih =>
      unfold loop
      simp only
      split
      · exact .inl rfl
      · next last updated next =>
          right
          split at next
          · next here =>
              obtain ⟨checksum, rfl⟩ := put_of_checksumField next
              refine ⟨here.2, last, checksum, ?_⟩
              cases encodeField capacity written last with
              | error touched => rfl
              | ok encoded => rfl
          · cases next
      · cases encodeField capacity written field with
        | error touched => exact .inl rfl
        | ok encoded => exact ih encoded

theorem map_withoutComputed_loop (setChecksum : Bool) (capacity : Nat)
    (fields rest : FieldCollection) (written : Bytes) :
    (loop setChecksum capacity fields rest written).fields.map withoutComputed =
      fields.map withoutComputed := by
  rcases loop_fields setChecksum capacity fields rest written with
    same | ⟨-, last, checksum, replaced⟩
  · rw [same]
  · rw [replaced]
    exact map_withoutComputed_put (.inr checksum)

end Encode

/-- The number of bytes of the fields that `message::encode` writes. -/
def Message.encodedLength (message : Message) (options : EncodeOptions) : Nat :=
  Encode.encodedLength options.setChecksum (message.withBodyLength options)

namespace Encode

/-- Whenever the encoder does not throw, it returns the size of its fields where
they fit and zero where they do not.  It stays inside the buffer, and what it has
stored are the fields in their order, of which only the body length and the
checksum are new. -/
theorem encode_exact (message : Message) (capacity : Nat) (options : EncodeOptions) :
    (message.encode capacity options).2.2.length ≤ capacity ∧
      (message.encode capacity options).2.1.fields.map withoutComputed =
        message.fields.map withoutComputed ∧
      ∀ size, (message.encode capacity options).1 = .ok size →
        (message.encodedLength options ≤ capacity →
          size = message.encodedLength options ∧
            (message.encode capacity options).2.2 =
              (toWrite options.setChecksum
                (message.encode capacity options).2.1.fields).flatMap wire) ∧
        (capacity < message.encodedLength options → size = 0) := by
  have exactly := loop_exact options.setChecksum capacity
    (message.withBodyLength options)
  refine ⟨(encode_within message capacity options).1, ?_, ?_⟩
  · exact (map_withoutComputed_loop _ _ _ _ _).trans
      (map_withoutComputed_withBodyLength message options)
  · intro size returned
    exact ⟨exactly.stored size returned, exactly.full size returned⟩

def shortMessage : Message :=
  ⟨[⟨Tag.BeginString, ascii "F"⟩, ⟨Tag.BodyLength, []⟩, ⟨Tag.MsgType, ascii "0"⟩,
    ⟨Tag.CheckSum, []⟩], 0, false⟩

theorem encode_exact_shortMessage :
    (shortMessage.encode 20 .standard).2.2 =
        (toWrite true (shortMessage.encode 20 .standard).2.1.fields).flatMap wire ∧
      (shortMessage.encode 19 .standard).1 = .ok 0 := by
  have fits := ((encode_exact shortMessage 20 .standard).2.2 20 (by decide)).1
    (by decide)
  have full := (encode_exact shortMessage 19 .standard).2.2 0 (by decide)
  exact ⟨fits.2, by rw [← full.2 (by decide)]; decide⟩

end Encode

end Crocofix
