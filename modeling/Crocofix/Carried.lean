/-
A message as it arrives at the other end of a channel.

The encoder gives the BodyLength and CheckSum fields their values, and the
decoder finds the fields again and the checksum over them.  Every other field
arrives as it was sent.
-/

import Crocofix.EncodeDecode
import Crocofix.Session.Validate

namespace Crocofix

open Numeral

namespace Message

def sumBeforeCheckSum (fields : FieldCollection) : UInt8 :=
  Decode.sumByte
    ((fields.takeWhile fun field => field.tag ≠ Tag.CheckSum).flatMap Encode.wire)

def carried (message : Message) (options : EncodeOptions) : Message :=
  let fields := message.withBodyLength options
  let checksum := sumBeforeCheckSum fields
  { fields :=
      if options.setChecksum then
        fields.put ⟨Tag.CheckSum, Checksum.zeroPadded3 checksum.toNat⟩
      else fields
    decodeChecksum := checksum.toUInt32
    decodeChecksumValid := true }

/-! ### What arrives -/

theorem tryGet_carried (message : Message) (options : EncodeOptions) {tag : Int32}
    (notBody : Tag.BodyLength ≠ tag) (notCheckSum : Tag.CheckSum ≠ tag) :
    (message.carried options).fields.tryGet tag = message.fields.tryGet tag := by
  have prepared : (message.withBodyLength options).tryGet tag =
      message.fields.tryGet tag := by
    unfold withBodyLength
    split
    · exact (FieldCollection.tryGet_put _ _ tag).trans (if_neg notBody)
    · rfl
  unfold carried
  simp only
  split
  · rw [FieldCollection.tryGet_put, if_neg notCheckSum, prepared]
  · exact prepared

variable {message : Message} {options : EncodeOptions}

theorem calculateBodyLength_carried (message : Message) (options : EncodeOptions) :
    (message.carried options).calculateBodyLength = message.calculateBodyLength := by
  rw [← calculateBodyLength_withBodyLength message options]
  unfold calculateBodyLength carried
  simp only
  split
  · exact bodyLengthLoop_put_checkSum _ false 0 (message.withBodyLength options)
  · rfl

theorem hasBodyLength_carried (sets : options.setBodyLength = true)
    (present : (message.fields.tryGet Tag.BodyLength).isSome) :
    (message.carried options).HasBodyLength := by
  obtain ⟨old, found⟩ := Option.isSome_iff_exists.mp present
  have prepared : (message.withBodyLength options).tryGet Tag.BodyLength =
      some (Field.ofUInt32 Tag.BodyLength message.calculateBodyLength) := by
    unfold withBodyLength
    rw [if_pos sets, FieldCollection.tryGet_put, found]
    rfl
  have arrives : (message.carried options).fields.tryGet Tag.BodyLength =
      some (Field.ofUInt32 Tag.BodyLength message.calculateBodyLength) := by
    unfold carried
    simp only
    split
    · exact (FieldCollection.tryGet_put _ _ _).trans
        ((if_neg (show Tag.CheckSum ≠ Tag.BodyLength by decide)).trans prepared)
    · exact prepared
  unfold HasBodyLength
  rw [arrives, calculateBodyLength_carried]
  rfl

theorem hasChecksum_carried (sets : options.setChecksum = true)
    (present : (message.fields.tryGet Tag.CheckSum).isSome) :
    (message.carried options).HasChecksum := by
  obtain ⟨old, found⟩ := Option.isSome_iff_exists.mp present
  have prepared : (message.withBodyLength options).tryGet Tag.CheckSum = some old := by
    unfold withBodyLength
    split
    · exact (FieldCollection.tryGet_put _ _ _).trans
        ((if_neg (show Tag.BodyLength ≠ Tag.CheckSum by decide)).trans found)
    · exact found
  have small : (sumBeforeCheckSum (message.withBodyLength options)).toUInt32.toNat <
      1000 := by
    rw [UInt8.toNat_toUInt32]
    have bounded := UInt8.toNat_lt (sumBeforeCheckSum (message.withBodyLength options))
    omega
  refine ⟨⟨Tag.CheckSum, Checksum.zeroPadded3
    (sumBeforeCheckSum (message.withBodyLength options)).toNat⟩, _, ?_, rfl, ?_⟩
  · unfold carried
    simp only
    rw [if_pos sets, FieldCollection.tryGet_put, prepared]
    rfl
  · exact (Checksum.formatChecksum_of_lt small).trans
      (congrArg (Except.ok ∘ Checksum.zeroPadded3) (UInt8.toNat_toUInt32 _))

/-! ### What the decoder makes of the encoding -/

theorem takeWhile_of_map_rewriteTo {fields front : FieldCollection} {last : Field}
    (rewritten : fields.map (FieldCollection.rewriteTo last) = front ++ [last])
    (others : ∀ field ∈ front, field.tag ≠ last.tag) :
    fields.takeWhile (fun field => field.tag ≠ last.tag) = front := by
  induction fields generalizing front with
  | nil => simp at rewritten
  | cons field rest ih =>
      cases front with
      | nil =>
          rw [List.map_cons, List.nil_append] at rewritten
          injection rewritten with here
          have same : field.tag = last.tag := by
            rw [← FieldCollection.rewriteTo_tag last field, here]
          rw [List.takeWhile_cons_of_neg (by simp [same])]
      | cons first front =>
          rw [List.map_cons, List.cons_append] at rewritten
          injection rewritten with here later
          have differs : field.tag ≠ last.tag := by
            rw [← FieldCollection.rewriteTo_tag last field, here]
            exact others first List.mem_cons_self
          rw [List.takeWhile_cons_of_pos (by simp [differs]), ih later
            fun other member => others other (List.mem_cons_of_mem _ member),
            ← here, FieldCollection.rewriteTo, if_neg differs]

/-- A well-formed message arrives as it is carried. -/
theorem decode_eq_carried {dictionary : OrchestrationFieldCollection}
    {message after : Message} {capacity size : Nat} {written : Bytes}
    (bodyDefined : dictionary.Defines Tag.BodyLength false)
    (checksumDefined : dictionary.Defines Tag.CheckSum false)
    (wellFormed : Encode.WellFormed dictionary message.fields)
    (fits : Encode.DataFits dictionary message.fields)
    (encoded : message.encode capacity .standard = (.ok size, after, written))
    (positive : 0 < size) :
    Message.empty.decode dictionary (written.take size) =
      (.ok ⟨size, true⟩, message.carried .standard) := by
  obtain ⟨front, checksum, afterEq, rewrites, others, rfl, rfl, formatted,
    readable⟩ := Encode.encode_wellFormed bodyDefined checksumDefined wellFormed
      fits encoded positive
  have prepared := Encode.withBodyLength_standard wellFormed.oneBodyLength
  have composed : Encode.rewritten message checksum =
      (message.withBodyLength .standard).map
        (FieldCollection.rewriteTo ⟨Tag.CheckSum, checksum⟩) := by
    rw [prepared, List.map_map]
    rfl
  have content : (message.withBodyLength .standard).map
      (FieldCollection.rewriteTo ⟨Tag.CheckSum, checksum⟩) =
        front ++ [⟨Tag.CheckSum, checksum⟩] := by
    rw [← composed, ← rewrites, afterEq]
  have plain : (message.withBodyLength .standard).takeWhile
      (fun field => field.tag ≠ Tag.CheckSum) = front :=
    takeWhile_of_map_rewriteTo content others
  have sum : sumBeforeCheckSum (message.withBodyLength .standard) =
      Decode.sumByte (front.flatMap Encode.wire) := by
    unfold sumBeforeCheckSum
    rw [plain]
  have text : Checksum.zeroPadded3
      (Decode.sumByte (front.flatMap Encode.wire)).toNat = checksum := by
    have rendered := Encode.formatChecksum_sumByte formatted
    rw [Checksum.eq_of_formatChecksum rendered, UInt8.toNat_toUInt32]
  have once : (message.withBodyLength .standard).countP
      (fun field => field.tag = Tag.CheckSum) = 1 := by
    rw [prepared, List.countP_map]
    have same : ((fun field : Field => decide (field.tag = Tag.CheckSum)) ∘
        FieldCollection.rewriteTo
          ⟨Tag.BodyLength, Encode.bodyLengthText message⟩) =
        fun field => decide (field.tag = Tag.CheckSum) := by
      funext field
      rw [Function.comp_apply, FieldCollection.rewriteTo_tag]
    rw [same]
    exact wellFormed.oneCheckSum
  have replaced : FieldCollection.replaceFirst (message.withBodyLength .standard)
      ⟨Tag.CheckSum, checksum⟩ = some _ :=
    FieldCollection.replaceFirst_of_countP_eq_one once
  have stored : (message.withBodyLength .standard).put ⟨Tag.CheckSum, checksum⟩ =
      front ++ [⟨Tag.CheckSum, checksum⟩] := by
    simp only [FieldCollection.put, FieldCollection.set, replaced, content,
      reduceCtorEq, if_false]
  have arrives : message.carried .standard =
      ⟨front ++ [⟨Tag.CheckSum, checksum⟩],
        (Decode.sumByte (front.flatMap Encode.wire)).toUInt32, true⟩ := by
    have sets : EncodeOptions.standard.setChecksum = true := rfl
    unfold carried
    simp only [sum, text]
    rw [if_pos sets, stored]
  rw [List.take_length, arrives]
  exact Encode.decode_wire readable others rfl

end Message

end Crocofix
