/-
The body length that the encoder writes.

It is computed from the numbers of digits of the tags and the lengths of the
values, before anything is encoded.  A sign is no digit, so that a field with a
negative tag is one byte longer than it is counted; the least tag alone is counted
with ten digits too many.
-/

import Crocofix.Encoding

namespace Crocofix

open Numeral

namespace Encode

def signs (fields : FieldCollection) : Nat :=
  fields.countP fun field => field.tag < 0

/-- The digits that are counted and not written. -/
def surplus (fields : FieldCollection) : Nat :=
  10 * fields.countP fun field => field.tag = Int32.minValue

theorem decimalInt_length (tag : Int32) :
    (numberOfDigits tag).toNat + (if tag < 0 then 1 else 0) =
      (decimalInt tag.toInt).length + if tag = Int32.minValue then 10 else 0 := by
  by_cases least : tag = Int32.minValue
  · rw [least, numberOfDigits_minValue]
    decide
  · have sign : tag.toInt < 0 ↔ tag < 0 := by
      rw [Int32.lt_iff_toInt_lt]
      rfl
    unfold decimalInt
    rw [if_neg least, numberOfDigits_toNat least]
    by_cases negative : tag < 0
    · rw [if_pos (sign.mpr negative), if_pos negative, List.length_cons]
    · rw [if_neg fun below => negative (sign.mp below), if_neg negative]

/-- A field as it is counted, and its sign, are its bytes and the surplus. -/
theorem counted_field (field : Field) :
    numberOfDigits field.tag + UInt32.ofNat field.value.length + 2 +
        UInt32.ofNat (if field.tag < 0 then 1 else 0) =
      UInt32.ofNat ((wire field).length +
        if field.tag = Int32.minValue then 10 else 0) := by
  have tag := decimalInt_length field.tag
  rw [wire_length]
  apply UInt32.toNat_inj.mp
  simp only [UInt32.toNat_add, UInt32.toNat_ofNat', UInt32.reduceToNat]
  omega

theorem bodyLengthLoop_body {body : FieldCollection} {last : Field}
    (plain : ∀ field ∈ body, field.tag ≠ Tag.CheckSum)
    (checksum : last.tag = Tag.CheckSum) (more : FieldCollection) (length : UInt32) :
    Message.bodyLengthLoop true length (body ++ last :: more) +
        UInt32.ofNat (signs body) =
      length + UInt32.ofNat ((body.flatMap wire).length + surplus body) := by
  induction body generalizing length with
  | nil =>
      rw [List.nil_append, Message.bodyLengthLoop, if_pos checksum]
      rfl
  | cons field body ih =>
      have later := ih (fun other member => plain other (List.mem_cons_of_mem _ member))
        (length + numberOfDigits field.tag + UInt32.ofNat field.value.length + 2)
      have here := counted_field field
      have sign : signs (field :: body) =
          signs body + if field.tag < 0 then 1 else 0 := by
        simp [signs, List.countP_cons]
      have bytes : ((field :: body).flatMap wire).length + surplus (field :: body) =
          (body.flatMap wire).length + surplus body +
            ((wire field).length + if field.tag = Int32.minValue then 10 else 0) := by
        simp only [surplus, List.flatMap_cons, List.length_append, List.countP_cons,
          decide_eq_true_eq]
        split <;> omega
      rw [List.cons_append, Message.bodyLengthLoop,
        if_neg (plain field List.mem_cons_self), Bool.not_true, if_neg Bool.false_ne_true,
        sign, UInt32.ofNat_add, ← UInt32.add_assoc, later, bytes,
        UInt32.ofNat_add (_ + surplus body), ← here]
      ac_rfl

theorem bodyLengthLoop_front {front : FieldCollection} {length : Field}
    (others : ∀ field ∈ front, field.tag ≠ Tag.BodyLength ∧ field.tag ≠ Tag.CheckSum)
    (first : length.tag = Tag.BodyLength) (rest : FieldCollection) :
    Message.bodyLengthLoop false 0 (front ++ length :: rest) =
      Message.bodyLengthLoop true 0 rest := by
  induction front with
  | nil =>
      have notLast : length.tag ≠ Tag.CheckSum := by
        rw [first]
        decide
      rw [List.nil_append, Message.bodyLengthLoop, if_neg notLast, Bool.not_false,
        if_pos rfl, decide_eq_true first]
  | cons field front ih =>
      obtain ⟨other, notLast⟩ := others field List.mem_cons_self
      rw [List.cons_append, Message.bodyLengthLoop, if_neg notLast, Bool.not_false,
        if_pos rfl, decide_eq_false other]
      exact ih fun one member => others one (List.mem_cons_of_mem _ member)

theorem loop_stored {capacity size : Nat} {front : FieldCollection} {last : Field}
    {more : FieldCollection} (others : ∀ field ∈ front, field.tag ≠ Tag.CheckSum)
    (checksum : last.tag = Tag.CheckSum)
    (returned : (loop true capacity (front ++ last :: more) (front ++ last :: more)
      []).result = .ok size)
    (positive : 0 < size) :
    ∃ value, (loop true capacity (front ++ last :: more) (front ++ last :: more)
      []).written = front.flatMap wire ++ wire ⟨Tag.CheckSum, value⟩ := by
  have plain : ∀ field ∈ front, ¬ (field.tag = Tag.CheckSum ∧ true = true) :=
    fun field member both => others field member both.1
  rcases loop_append true plain capacity (front ++ last :: more) (last :: more) [] with
    stored | full
  · rw [stored, List.nil_append] at returned ⊢
    cases formatted : Checksum.formatChecksum
        (Checksum.calculateChecksum (front.flatMap wire)) with
    | error exception =>
        rw [loop_checksum_error more checksum formatted] at returned
        cases returned
    | ok value =>
        obtain ⟨updated, -, run⟩ := loop_checksum capacity (front ++ last :: more) more
          (by simp) checksum formatted
        rw [run] at returned ⊢
        cases encoded : encodeField capacity (front.flatMap wire)
            ⟨Tag.CheckSum, value⟩ with
        | error touched =>
            rw [encoded] at returned
            injection returned with zero
            omega
        | ok encoded => exact ⟨value, (encodeField_ok encoded).1⟩
  · rw [full] at returned
    injection returned with zero
    omega

theorem signs_le (body : FieldCollection) : signs body ≤ (body.flatMap wire).length := by
  induction body with
  | nil => exact Nat.le_refl 0
  | cons field body ih =>
      have long := wire_length field
      have more : signs (field :: body) ≤ signs body + 1 := by
        unfold signs
        rw [List.countP_cons]
        split
        · exact Nat.le_refl _
        · exact Nat.le_succ _
      rw [List.flatMap_cons, List.length_append]
      omega

/-- The BodyLength that is encoded in front of the CheckSum is, modulo 2^32, the
number of bytes between the two, less one for each negative tag there and with the
surplus of the least ones. -/
theorem encode_bodyLength {message : Message} {capacity size : Nat}
    {front body more : FieldCollection} {length last : Field}
    (shape : message.fields = front ++ length :: (body ++ last :: more))
    (others : ∀ field ∈ front, field.tag ≠ Tag.BodyLength ∧ field.tag ≠ Tag.CheckSum)
    (first : length.tag = Tag.BodyLength)
    (plain : ∀ field ∈ body, field.tag ≠ Tag.CheckSum)
    (checksum : last.tag = Tag.CheckSum)
    (returned : (message.encode capacity .standard).1 = .ok size)
    (positive : 0 < size) :
    ∃ (number : UInt32) (value : Bytes),
      (message.encode capacity .standard).2.2 =
        front.flatMap wire ++ wire (.ofUInt32 Tag.BodyLength number) ++
          body.flatMap wire ++ wire ⟨Tag.CheckSum, value⟩ ∧
      number + UInt32.ofNat (signs body) =
        UInt32.ofNat ((body.flatMap wire).length + surplus body) ∧
      ((body.flatMap wire).length < 4294967296 →
        (∀ field ∈ body, field.tag ≠ Int32.minValue) →
        (number.toNat = (body.flatMap wire).length ↔ ∀ field ∈ body, 0 ≤ field.tag)) := by
  have fields : message.withBodyLength .standard =
      (front ++ Field.ofUInt32 Tag.BodyLength message.calculateBodyLength :: body) ++
        last :: more := by
    change message.fields.put (Field.ofUInt32 Tag.BodyLength _) = _
    have replaced := @FieldCollection.replaceFirst_append front length
      (Field.ofUInt32 Tag.BodyLength message.calculateBodyLength)
      (fun field member => (others field member).1) first (body ++ last :: more)
    rw [shape, FieldCollection.put, FieldCollection.set, replaced]
    simp
  have before : ∀ field ∈
      front ++ Field.ofUInt32 Tag.BodyLength message.calculateBodyLength :: body,
      field.tag ≠ Tag.CheckSum := by
    intro field member
    rcases List.mem_append.mp member with inFront | later
    · exact (others field inFront).2
    · rcases List.mem_cons.mp later with rfl | inBody
      · exact (by decide : Tag.BodyLength ≠ Tag.CheckSum)
      · exact plain field inBody
  have written := @loop_stored capacity size _ _ more before checksum
  rw [← fields] at written
  obtain ⟨value, written⟩ := written returned positive
  have counted : message.calculateBodyLength + UInt32.ofNat (signs body) =
      UInt32.ofNat ((body.flatMap wire).length + surplus body) := by
    have whole := bodyLengthLoop_body plain checksum more 0
    rw [Message.calculateBodyLength, shape, bodyLengthLoop_front others first, whole,
      UInt32.zero_add]
  refine ⟨message.calculateBodyLength, value, ?_, counted, ?_⟩
  · change (loop true capacity _ _ []).written = _
    rw [written, List.flatMap_append, List.flatMap_cons]
    simp only [List.append_assoc]
  · intro small notLeast
    have exact : surplus body = 0 := by
      simpa [surplus, List.countP_eq_zero] using notLeast
    have fewer := signs_le body
    have sum := congrArg UInt32.toNat counted
    rw [exact, UInt32.toNat_add, UInt32.toNat_ofNat', UInt32.toNat_ofNat'] at sum
    have range := message.calculateBodyLength.toNat_lt
    have unsigned : (∀ field ∈ body, 0 ≤ field.tag) ↔ signs body = 0 := by
      simp [signs, List.countP_eq_zero]
    rw [unsigned]
    omega

theorem encode_bodyLength_shortMessage :
    ∃ number : UInt32,
      wire (.ofUInt32 Tag.BodyLength number) <:+: (shortMessage.encode 20 .standard).2.2 ∧
      number.toNat = (wire ⟨Tag.MsgType, ascii "0"⟩).length := by
  obtain ⟨number, value, written, -, exactly⟩ :=
    @encode_bodyLength shortMessage 20 20 [⟨Tag.BeginString, ascii "F"⟩]
      [⟨Tag.MsgType, ascii "0"⟩] [] ⟨Tag.BodyLength, []⟩ ⟨Tag.CheckSum, []⟩ rfl
      (by decide) rfl (by decide) rfl (by decide) (by decide)
  refine ⟨number, ?_, ?_⟩
  · rw [written]
    exact ⟨_, _, (List.append_assoc _ _ _).symm⟩
  · exact (exactly (by decide) (by decide)).mpr (by decide)

end Encode

end Crocofix
