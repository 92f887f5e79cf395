/-
Encoding into a buffer that grows until the message fits.

The Python module calls `message::encode` with a larger buffer as long as it
returns zero.  What a call has left in the message is encoded to as many bytes
as before, so that the buffer becomes large enough, unless there is nothing to
encode: then every call returns zero.
-/

import Crocofix.EncodeSize

namespace Crocofix

open Numeral

namespace Python

/-- The loop of `encode`, which is given the number of its iterations as fuel
and returns or throws with the message as it is then. -/
def encodeLoop (options : EncodeOptions) :
    Nat → Nat → Message → Option (Except Exception Bytes × Message)
  | 0, _, _ => none
  | fuel + 1, capacity, message =>
      match message.encode capacity options with
      | (.error exception, after, _) => some (.error exception, after)
      | (.ok size, after, written) =>
          if size = 0 then encodeLoop options fuel (capacity + capacity / 2) after
          else some (.ok (written.take size), after)

def encode (message : Message) (options : EncodeOptions) (fuel : Nat) :
    Option (Except Exception Bytes × Message) :=
  encodeLoop options fuel 1024 message

end Python

namespace Encode

/-! ### The number of bytes -/

theorem encodedLength_eq_zero_iff (setChecksum : Bool) (fields : FieldCollection) :
    encodedLength setChecksum fields = 0 ↔ fields = [] := by
  cases fields with
  | nil => simp [encodedLength, toWrite]
  | cons field rest =>
      have positive (rest : FieldCollection) :
          0 < ((field :: rest).map (fieldLength setChecksum)).sum := by
        rw [List.map_cons, List.sum_cons, fieldLength]
        omega
      have nonzero : encodedLength setChecksum (field :: rest) ≠ 0 := by
        unfold encodedLength toWrite
        split
        · exact Nat.ne_of_gt (positive [])
        · exact Nat.ne_of_gt (positive _)
      exact ⟨fun zero => absurd zero nonzero, fun empty => absurd empty (by simp)⟩

theorem encodedLength_put_checkSum {last : Field} (checksum : last.tag = Tag.CheckSum)
    (fields : FieldCollection) :
    encodedLength true (fields.put last) = encodedLength true fields := by
  unfold encodedLength
  induction fields with
  | nil => rfl
  | cons field rest ih =>
      rw [FieldCollection.put_cons, checksum]
      by_cases here : field.tag = Tag.CheckSum
      · rw [if_pos here, toWrite, toWrite, if_pos ⟨checksum, rfl⟩, if_pos ⟨here, rfl⟩,
          List.map_singleton, List.map_singleton, fieldLength, fieldLength,
          if_pos ⟨checksum, rfl⟩, if_pos ⟨here, rfl⟩, checksum, here]
      · have other : ¬ (field.tag = Tag.CheckSum ∧ true = true) := fun both => here both.1
        rw [if_neg here, toWrite, toWrite, if_neg other, if_neg other, List.map_cons,
          List.map_cons, List.sum_cons, List.sum_cons, ih]

/-! ### Where the encoder throws -/

theorem Refuses.of_put {fields : FieldCollection} {last : Field}
    (checksum : last.tag = Tag.CheckSum) (refuses : Refuses true (fields.put last)) :
    Refuses true fields := by
  cases found : fields.tryGet last.tag with
  | none => rwa [FieldCollection.put_of_absent found] at refuses
  | some old =>
      obtain ⟨-, front, here, more, exception, split, others, hereTag, refused⟩ := refuses
      have oldTag : old.tag = Tag.CheckSum :=
        (FieldCollection.tag_of_tryGet found).trans checksum
      have back := FieldCollection.put_put_back found
      rw [split, FieldCollection.put_append (by rwa [oldTag]) (hereTag.trans oldTag.symm)]
        at back
      exact ⟨rfl, front, old, more, exception, back.symm, others, oldTag, refused⟩

theorem Refuses.throws {setChecksum : Bool} {fields : FieldCollection}
    (refuses : Refuses setChecksum fields) :
    ∃ capacity exception,
      (loop setChecksum capacity fields fields []).result = .error exception := by
  obtain ⟨rfl, front, last, more, exception, rfl, others, checksum, refused⟩ := refuses
  have fronts := loop_append_of_le true
    (fun field member both => others field member both.1)
    (front ++ last :: more) (last :: more) (Nat.le_refl ([] ++ front.flatMap wire).length)
  refine ⟨([] ++ front.flatMap wire).length, exception, ?_⟩
  rw [fronts, List.nil_append, loop_checksum_error more checksum refused]

end Encode

namespace Message

/-! ### What a call leaves in the message -/

theorem encode_fields (message : Message) (capacity : Nat) (options : EncodeOptions) :
    (message.encode capacity options).2.1.fields = message.withBodyLength options ∨
      options.setChecksum = true ∧ ∃ last : Field, last.tag = Tag.CheckSum ∧
        (message.encode capacity options).2.1.fields =
          (message.withBodyLength options).put last :=
  Encode.loop_fields options.setChecksum capacity (message.withBodyLength options)
    (message.withBodyLength options) []

theorem calculateBodyLength_encode (message : Message) (capacity : Nat)
    (options : EncodeOptions) :
    (message.encode capacity options).2.1.calculateBodyLength =
      message.calculateBodyLength := by
  rw [← calculateBodyLength_withBodyLength message options]
  unfold calculateBodyLength
  rcases message.encode_fields capacity options with same | ⟨-, last, checksum, replaced⟩
  · rw [same]
  · obtain ⟨tag, value⟩ := last
    obtain rfl : tag = Tag.CheckSum := checksum
    rw [replaced, bodyLengthLoop_put_checkSum]

theorem withBodyLength_encode (message : Message) (capacity : Nat)
    (options : EncodeOptions) :
    (message.encode capacity options).2.1.withBodyLength options =
      (message.encode capacity options).2.1.fields := by
  unfold withBodyLength
  rw [calculateBodyLength_encode]
  split
  · next sets =>
      have before : (message.withBodyLength options).tryGet Tag.BodyLength =
          (message.fields.tryGet Tag.BodyLength).map fun _ =>
            Field.ofUInt32 Tag.BodyLength message.calculateBodyLength := by
        rw [withBodyLength, if_pos sets, FieldCollection.tryGet_put]
        exact if_pos rfl
      have after : (message.encode capacity options).2.1.fields.tryGet Tag.BodyLength =
          (message.withBodyLength options).tryGet Tag.BodyLength := by
        rcases message.encode_fields capacity options with
          same | ⟨-, last, checksum, replaced⟩
        · rw [same]
        · rw [replaced, FieldCollection.tryGet_put, checksum]
          exact if_neg (by decide)
      rw [before] at after
      cases found : message.fields.tryGet Tag.BodyLength with
      | none =>
          rw [found] at after
          exact FieldCollection.put_of_absent after
      | some old =>
          rw [found] at after
          exact FieldCollection.put_of_present after
  · rfl

theorem encodedLength_encode (message : Message) (capacity : Nat)
    (options : EncodeOptions) :
    (message.encode capacity options).2.1.encodedLength options =
      message.encodedLength options := by
  unfold encodedLength
  rw [withBodyLength_encode]
  rcases message.encode_fields capacity options with
    same | ⟨sets, last, checksum, replaced⟩
  · rw [same]
  · rw [replaced, sets, Encode.encodedLength_put_checkSum checksum]

theorem refuses_of_encode {message : Message} {capacity : Nat}
    {options : EncodeOptions}
    (refuses : Encode.Refuses options.setChecksum
      ((message.encode capacity options).2.1.withBodyLength options)) :
    Encode.Refuses options.setChecksum (message.withBodyLength options) := by
  rw [withBodyLength_encode] at refuses
  rcases message.encode_fields capacity options with
    same | ⟨sets, last, checksum, replaced⟩
  · rwa [same] at refuses
  · rw [replaced, sets] at refuses
    rw [sets]
    exact refuses.of_put checksum

theorem withBodyLength_eq_nil_iff (message : Message) (options : EncodeOptions) :
    message.withBodyLength options = [] ↔ message.fields = [] := by
  unfold withBodyLength
  split
  · cases message.fields with
    | nil => simp [FieldCollection.put_nil]
    | cons field rest =>
        rw [FieldCollection.put_cons]
        split <;> simp
  · rfl

end Message

namespace Python

/-! ### The loop -/

/-- The loop ends with all of the fields once half of the buffer is something to
add to it. -/
theorem encodeLoop_ends {message : Message} {options : EncodeOptions} {capacity : Nat}
    (accepts : ¬ Encode.Refuses options.setChecksum (message.withBodyLength options))
    (nonzero : message.encodedLength options ≠ 0) (grows : 2 ≤ capacity) :
    ∃ fuel encoded after,
      encodeLoop options fuel capacity message = some (.ok encoded, after) ∧
      encoded.length = message.encodedLength options ∧
      encoded = (Encode.toWrite options.setChecksum after.fields).flatMap Encode.wire := by
  induction gap : message.encodedLength options - capacity using Nat.strongRecOn
    generalizing message capacity with
  | ind missing ih =>
      have returned : (message.encode capacity options).1 =
          .ok (if message.encodedLength options ≤ capacity then
            message.encodedLength options else 0) :=
        Encode.loop_returns accepts capacity
      have exactly := Encode.loop_exact options.setChecksum capacity
        (message.withBodyLength options)
      by_cases fits : message.encodedLength options ≤ capacity
      · rw [if_pos fits] at returned
        have stored : (message.encode capacity options).2.2 = _ :=
          (exactly.stored _ returned fits).2
        have length : (message.encode capacity options).2.2.length =
            message.encodedLength options := by
          rcases (Encode.encode_within message capacity options).2 _ returned with
            zero | same
          · exact absurd zero nonzero
          · exact same.symm
        refine ⟨1, (message.encode capacity options).2.2,
          (message.encode capacity options).2.1, ?_, length, stored⟩
        unfold encodeLoop
        rcases called : message.encode capacity options with ⟨result, after, written⟩
        rw [called] at returned length
        obtain rfl : result = _ := returned
        simp only [if_neg nonzero]
        rw [← length, List.take_length]
      · rw [if_neg fits] at returned
        have kept : (message.encode capacity options).2.1.encodedLength options =
            message.encodedLength options :=
          message.encodedLength_encode capacity options
        have less : message.encodedLength options - (capacity + capacity / 2) <
            missing := by omega
        have next := ih _ less
          (fun refuses => accepts (Message.refuses_of_encode refuses))
          (by rwa [kept]) (show 2 ≤ capacity + capacity / 2 by omega) (by rw [kept])
        rw [kept] at next
        obtain ⟨fuel, encoded, after, run, length, stored⟩ := next
        refine ⟨fuel + 1, encoded, after, ?_, length, stored⟩
        unfold encodeLoop
        rcases called : message.encode capacity options with ⟨result, left, written⟩
        rw [called] at returned run
        obtain rfl : result = _ := returned
        exact run

theorem encode_of_nil {message : Message} (empty : message.fields = [])
    (capacity : Nat) (options : EncodeOptions) :
    message.encode capacity options = (.ok 0, message, []) := by
  obtain ⟨fields, decodeChecksum, decodeChecksumValid⟩ := message
  obtain rfl : fields = [] := empty
  have prepared : Message.withBodyLength ⟨[], decodeChecksum, decodeChecksumValid⟩
      options = [] := (Message.withBodyLength_eq_nil_iff _ options).mpr rfl
  unfold Message.encode
  rw [prepared]
  rfl

theorem encodeLoop_of_nil {message : Message} (empty : message.fields = [])
    (options : EncodeOptions) (fuel capacity : Nat) :
    encodeLoop options fuel capacity message = none := by
  induction fuel generalizing capacity with
  | zero => rfl
  | succ fuel ih =>
      unfold encodeLoop
      rw [encode_of_nil empty]
      exact ih _

/-- Zero means that the buffer is too small, some buffer is large enough, and the
loop returns what is encoded. -/
structure Stops (message : Message) (options : EncodeOptions) : Prop where
  small : ∀ capacity, (message.encode capacity options).1 = .ok 0 →
    capacity < message.encodedLength options
  large : ∃ enough, ∀ capacity, enough ≤ capacity →
    ∃ size, 0 < size ∧ (message.encode capacity options).1 = .ok size
  ends : ∃ fuel encoded after,
    encode message options fuel = some (.ok encoded, after) ∧
    encoded.length = message.encodedLength options

/-- Where `message::encode` does not throw, the loop stops exactly if the message
has a field. -/
theorem stops_iff (message : Message) (options : EncodeOptions)
    (returns : ∀ capacity exception,
      (message.encode capacity options).1 ≠ .error exception) :
    Stops message options ↔ message.fields ≠ [] := by
  have accepts : ¬ Encode.Refuses options.setChecksum
      (message.withBodyLength options) := by
    intro refuses
    obtain ⟨capacity, exception, thrown⟩ := refuses.throws
    exact returns capacity exception thrown
  have sized (capacity : Nat) : (message.encode capacity options).1 =
      .ok (if message.encodedLength options ≤ capacity then
        message.encodedLength options else 0) :=
    Encode.loop_returns accepts capacity
  constructor
  · intro stops empty
    obtain ⟨fuel, encoded, after, run, -⟩ := stops.ends
    rw [encode, encodeLoop_of_nil empty] at run
    cases run
  · intro nonempty
    have nonzero : message.encodedLength options ≠ 0 := by
      intro zero
      rw [Message.encodedLength, Encode.encodedLength_eq_zero_iff,
        Message.withBodyLength_eq_nil_iff] at zero
      exact nonempty zero
    constructor
    · intro capacity zero
      rw [sized] at zero
      injection zero with zero
      by_contra large
      rw [if_pos (Nat.not_lt.mp large)] at zero
      exact nonzero zero
    · refine ⟨message.encodedLength options, fun capacity large => ?_⟩
      refine ⟨message.encodedLength options, Nat.pos_of_ne_zero nonzero, ?_⟩
      rw [sized, if_pos large]
    · obtain ⟨fuel, encoded, after, run, length, -⟩ :=
        encodeLoop_ends accepts nonzero (show 2 ≤ 1024 by omega)
      exact ⟨fuel, encoded, after, run, length⟩

theorem stops_single :
    Stops ⟨[⟨Tag.MsgType, ascii "0"⟩], 0, false⟩ .none := by
  refine (stops_iff _ .none ?_).mpr (List.cons_ne_nil _ _)
  intro capacity exception thrown
  have accepts : ¬ Encode.Refuses EncodeOptions.none.setChecksum
      (Message.withBodyLength ⟨[⟨Tag.MsgType, ascii "0"⟩], 0, false⟩ .none) :=
    fun refuses => Bool.noConfusion refuses.sets
  have returned := Encode.loop_returns accepts capacity
  have impossible : Except.error exception = Except.ok _ := thrown.symm.trans returned
  cases impossible

/-- A fresh message: the encoder never throws, and the loop never stops. -/
theorem fresh_message_loops :
    (∀ capacity exception,
        (Message.empty.encode capacity .standard).1 ≠ .error exception) ∧
      ¬ Stops Message.empty .standard ∧
      ∀ fuel, encode Message.empty .standard fuel = none := by
  have loops (fuel : Nat) : encode Message.empty .standard fuel = none :=
    encodeLoop_of_nil rfl .standard fuel 1024
  refine ⟨?_, ?_, loops⟩
  · intro capacity exception thrown
    rw [encode_of_nil rfl] at thrown
    cases thrown
  · intro stops
    obtain ⟨fuel, encoded, after, run, -⟩ := stops.ends
    rw [loops] at run
    cases run

end Python

end Crocofix
