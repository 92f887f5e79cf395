/-
What the receiving session makes of a message that was encoded and decoded.

The message arrives with the fields that encoding left in it, and its CheckSum
and BodyLength pass the checks of the receiver.  The length in front of a data
value is read as an `int`, so a value of 2^31 bytes can be encoded but not
decoded.
-/

import Crocofix.EncodeDecode
import Crocofix.Session.Receive

namespace Crocofix

open Numeral

namespace Session

/-! ### The receiver's own checks -/

theorem validateChecksum_of_formatted (environment : Environment)
    {message : Message} {received : Field} {checksum : UInt32}
    (found : message.fields.tryGet Tag.CheckSum = some received)
    (calculated : message.calculateChecksum = .ok checksum)
    (formatted : Checksum.formatChecksum checksum = .ok received.value)
    (session : Session) :
    validateChecksum environment message session = (.ok true, session) := by
  unfold validateChecksum
  rw [found]
  simp only [calculated, formatted, Call.ofExcept_ok, Call.pure_bind, ne_eq,
    not_true_eq_false, if_false, Call.pure_apply]

theorem validateBodyLength_of_calculated (environment : Environment)
    {message : Message} {received : Field}
    (found : message.fields.tryGet Tag.BodyLength = some received)
    (value : received.value = decimal message.calculateBodyLength.toNat)
    (session : Session) :
    validateBodyLength environment message session = (.ok true, session) := by
  unfold validateBodyLength
  rw [found]
  simp only [value, ne_eq, not_true_eq_false, if_false, Call.pure_apply]

theorem tryGet_of_countP_eq_one {fields : FieldCollection} {tag : Int32}
    (once : fields.countP (fun field => field.tag = tag) = 1) :
    ∃ field, fields.tryGet tag = some field ∧ field.tag = tag := by
  have present : 0 < fields.countP (fun field => field.tag = tag) := by
    omega
  obtain ⟨field, member, same⟩ := List.countP_pos_iff.mp present
  cases found : fields.tryGet tag with
  | none =>
      have absent := List.find?_eq_none.mp found field member
      exact absurd same absent
  | some first => exact ⟨first, rfl, FieldCollection.tag_of_tryGet found⟩

theorem tryGet_rewritten {message : Message} (checksum : Bytes)
    (once : message.fields.countP (fun field => field.tag = Tag.CheckSum) = 1)
    (onceBody :
      message.fields.countP (fun field => field.tag = Tag.BodyLength) = 1) :
    FieldCollection.tryGet (Encode.rewritten message checksum) Tag.CheckSum =
        some ⟨Tag.CheckSum, checksum⟩ ∧
      FieldCollection.tryGet (Encode.rewritten message checksum) Tag.BodyLength =
        some ⟨Tag.BodyLength, Encode.bodyLengthText message⟩ := by
  have composed : Encode.rewritten message checksum =
      (message.fields.map (FieldCollection.rewriteTo
        ⟨Tag.BodyLength, Encode.bodyLengthText message⟩)).map
        (FieldCollection.rewriteTo ⟨Tag.CheckSum, checksum⟩) := by
    rw [List.map_map]
    rfl
  obtain ⟨last, lastFound, lastTag⟩ := tryGet_of_countP_eq_one once
  obtain ⟨body, bodyFound, bodyTag⟩ := tryGet_of_countP_eq_one onceBody
  rw [composed]
  simp only [Encode.tryGet_map_rewriteTo, lastFound, bodyFound, Option.map_some]
  constructor
  · have kept : FieldCollection.rewriteTo
        ⟨Tag.BodyLength, Encode.bodyLengthText message⟩ last = last :=
      if_neg fun same : last.tag = Tag.BodyLength =>
        absurd (lastTag.symm.trans same) (by decide)
    rw [kept, FieldCollection.rewriteTo, if_pos lastTag]
  · rw [FieldCollection.rewriteTo, FieldCollection.rewriteTo, if_pos bodyTag]
    rfl

/-- A well-formed message whose data values fit an `int` is decoded completely,
with the fields that encoding left in it, and passes the receiver's checks. -/
theorem decoded_is_accepted {dictionary : OrchestrationFieldCollection}
    {message after : Message} {capacity size : Nat} {written : Bytes}
    (bodyDefined : dictionary.Defines Tag.BodyLength false)
    (checksumDefined : dictionary.Defines Tag.CheckSum false)
    (wellFormed : Encode.WellFormed dictionary message.fields)
    (fits : Encode.DataFits dictionary message.fields)
    (encoded : message.encode capacity .standard = (.ok size, after, written))
    (positive : 0 < size) :
    ∃ decoded checksum,
      Message.empty.decode dictionary (written.take size) =
        (.ok ⟨size, true⟩, decoded) ∧
      decoded.fields = after.fields ∧
      after.fields = Encode.rewritten message checksum ∧
      ∀ environment session,
        validateChecksum environment decoded session = (.ok true, session) ∧
          validateBodyLength environment decoded session =
            (.ok true, session) := by
  obtain ⟨decoded, checksum, result, fields, rewrites, value, calculated,
    formatted⟩ := Encode.decode_encode bodyDefined checksumDefined wellFormed
      fits encoded positive
  refine ⟨decoded, checksum, result, fields, rewrites, ?_⟩
  have content := fields.trans rewrites
  obtain ⟨checksumFound, bodyFound⟩ := tryGet_rewritten checksum
    wellFormed.oneCheckSum wellFormed.oneBodyLength
  rw [← content] at checksumFound bodyFound
  have length := Encode.calculateBodyLength_rewritten wellFormed.oneBodyLength
    content
  intro environment session
  constructor
  · exact validateChecksum_of_formatted environment checksumFound calculated
      formatted session
  · apply validateBodyLength_of_calculated environment bodyFound
    rw [length]
    rfl

/-! ### A message with one data field -/

open OrchestrationFieldCollection (excerpt)

def rawDataMessage (value : Bytes) : Message :=
  { Message.empty with
    fields := [⟨Tag.BodyLength, []⟩, ⟨95, decimal value.length⟩, ⟨96, value⟩,
      ⟨Tag.CheckSum, []⟩] }

theorem excerpt_bodyLength : excerpt.Defines Tag.BodyLength false :=
  ⟨⟨9, false⟩, rfl, rfl, rfl⟩

theorem excerpt_checkSum : excerpt.Defines Tag.CheckSum false :=
  ⟨⟨10, false⟩, rfl, rfl, rfl⟩

theorem excerpt_rawDataLength : excerpt.Defines 95 false :=
  ⟨⟨95, false⟩, rfl, rfl, rfl⟩

theorem excerpt_rawData : excerpt.Defines 96 true :=
  ⟨⟨96, true⟩, rfl, rfl, rfl⟩

theorem wellFormed_rawDataMessage (value : Bytes) :
    Encode.WellFormed excerpt (rawDataMessage value).fields where
  positive := by
    intro field member
    simp only [rawDataMessage, List.mem_cons, List.not_mem_nil, or_false] at member
    rcases member with rfl | rfl | rfl | rfl
    · exact of_decide_eq_true rfl
    · exact of_decide_eq_true rfl
    · exact of_decide_eq_true rfl
    · exact of_decide_eq_true rfl
  known := by
    intro field member
    simp only [rawDataMessage, List.mem_cons, List.not_mem_nil, or_false] at member
    rcases member with rfl | rfl | rfl | rfl
    · exact ⟨false, excerpt_bodyLength⟩
    · exact ⟨false, excerpt_rawDataLength⟩
    · exact ⟨true, excerpt_rawData⟩
    · exact ⟨false, excerpt_checkSum⟩
  oneBodyLength := rfl
  oneCheckSum := rfl
  checkSumLast := ⟨⟨Tag.CheckSum, []⟩, rfl, rfl⟩
  text := by
    intro field member isText
    simp only [rawDataMessage, List.mem_cons, List.not_mem_nil, or_false] at member
    rcases member with rfl | rfl | rfl | rfl
    · exact List.not_mem_nil
    · exact Encode.separator_not_mem_decimal value.length
    · cases excerpt_rawData.isData_unique isText
    · exact List.not_mem_nil
  data := by
    refine ⟨?_, ?_, ?_, ?_, trivial⟩
    · intro isData
      cases excerpt_bodyLength.isData_unique isData
    · intro isData
      cases excerpt_rawDataLength.isData_unique isData
    · intro _
      exact ⟨_, rfl, of_decide_eq_true rfl, rfl⟩
    · intro isData
      cases excerpt_checkSum.isData_unique isData

theorem dataFits_rawDataMessage {value : Bytes}
    (small : value.length < 2147483648) :
    Encode.DataFits excerpt (rawDataMessage value).fields := by
  intro field member isData
  simp only [rawDataMessage, List.mem_cons, List.not_mem_nil, or_false] at member
  rcases member with rfl | rfl | rfl | rfl
  · exact Nat.zero_lt_succ _
  · cases excerpt_rawDataLength.isData_unique isData
  · exact small
  · exact Nat.zero_lt_succ _

theorem decoded_is_accepted_separator :
    ∃ decoded checksum,
      Message.empty.decode excerpt
          (((rawDataMessage [1]).encode 8192 .standard).2.2.take 22) =
        (.ok ⟨22, true⟩, decoded) ∧
      decoded.fields = ((rawDataMessage [1]).encode 8192 .standard).2.1.fields ∧
      ((rawDataMessage [1]).encode 8192 .standard).2.1.fields =
        Encode.rewritten (rawDataMessage [1]) checksum ∧
      ∀ environment session,
        validateChecksum environment decoded session = (.ok true, session) ∧
          validateBodyLength environment decoded session =
            (.ok true, session) :=
  decoded_is_accepted excerpt_bodyLength excerpt_checkSum
    (wellFormed_rawDataMessage [1]) (dataFits_rawDataMessage (by decide))
    (Prod.ext (by decide) rfl) (by decide)

/-! ### A value whose length does not fit an `int` -/

theorem calculateBodyLength_rawDataMessage {value : Bytes}
    (long : value.length = 2147483648) :
    (rawDataMessage value).calculateBodyLength = 2147483666 := by
  have counted : (rawDataMessage value).calculateBodyLength =
      0 + numberOfDigits 95 + UInt32.ofNat (decimal value.length).length + 2 +
        numberOfDigits 96 + UInt32.ofNat value.length + 2 := rfl
  rw [counted, long]
  decide

theorem nonnegativeRemainder_rawDataMessage {value : Bytes}
    (zeros : Checksum.charSum value = 0) :
    Checksum.NonnegativeRemainder
      (List.flatMap Encode.wire
        [⟨Tag.BodyLength, decimal 2147483666⟩, ⟨95, decimal 2147483648⟩,
          ⟨96, value⟩]) := by
  have rawData : Encode.wire ⟨96, value⟩ = ascii "96=" ++ (value ++ [1]) := by
    have tag : decimalInt (96 : Int32).toInt ++ [Decode.valueSeparator] =
        ascii "96=" := by
      decide
    rw [← tag, List.append_assoc]
    rfl
  have split : List.flatMap Encode.wire
      [⟨Tag.BodyLength, decimal 2147483666⟩, ⟨95, decimal 2147483648⟩,
        ⟨96, value⟩] =
      (Encode.wire ⟨Tag.BodyLength, decimal 2147483666⟩ ++
        Encode.wire ⟨95, decimal 2147483648⟩ ++ ascii "96=") ++ value ++ [1] := by
    simp only [List.flatMap_cons, List.flatMap_nil, List.append_nil,
      List.append_assoc, rawData]
  have sum : Checksum.charSum
      (Encode.wire ⟨Tag.BodyLength, decimal 2147483666⟩ ++
        Encode.wire ⟨95, decimal 2147483648⟩ ++ ascii "96=") = 1517 := by
    decide
  have last : Checksum.charSum [1] = 1 := by
    decide
  rw [split, Checksum.NonnegativeRemainder, Checksum.charSum_append,
    Checksum.charSum_append, sum, zeros, last]
  exact .inl (by decide)

theorem charSum_zeros (count : Nat) :
    Checksum.charSum (List.replicate count 0) = 0 := by
  simp [Checksum.charSum, Checksum.byteSum, List.countP_replicate]

theorem stoi_too_long : ∃ exception,
    stoi (decimal 2147483648) = .error exception := by
  rw [stoi_decimal]
  exact ⟨_, if_neg (by decide)⟩

/-- The decoder cannot read the length in front of the value. -/
theorem decode_rawDataMessage (value : Bytes) {bodyLength : Bytes}
    (text : Decode.fieldSeparator ∉ bodyLength) (more : Bytes) :
    ∃ fault, (Message.empty.decode excerpt
      (List.flatMap Encode.wire
          [⟨Tag.BodyLength, bodyLength⟩, ⟨95, decimal 2147483648⟩] ++
        (Encode.wire ⟨96, value⟩ ++ more))).1 = .error fault := by
  obtain ⟨exception, refused⟩ := stoi_too_long
  have readable : Encode.ReadableFrom excerpt none
      [⟨Tag.BodyLength, bodyLength⟩, ⟨95, decimal 2147483648⟩] :=
    ⟨Encode.readable_of_text excerpt_bodyLength text,
      Encode.readable_of_text excerpt_rawDataLength
        (Encode.separator_not_mem_decimal 2147483648), trivial⟩
  have front := Encode.run_wire Message.empty.progress readable (by simp)
    (Encode.wire ⟨96, value⟩ ++ more)
  generalize checksumEq : Message.empty.progress.checksum + Decode.sumByte
    (List.flatMap Encode.wire
      [⟨Tag.BodyLength, bodyLength⟩, ⟨95, decimal 2147483648⟩]) = checksum at front
  have read : Decode.readTag excerpt (Encode.wire ⟨96, value⟩ ++ more) =
      some (.ok (96, true)) := by
    obtain ⟨definition, found, -, kind⟩ := excerpt_rawData
    rw [← Encode.bytes_canonical, Encode.Spelled.bytes_append,
      Encode.Spelled.canonical, Encode.readTag_of_parsed
      (Encode.not_mem_decimalInt (by decide) (by decide) _)
      (fromChars_decimalInt 96) found, kind]
  have last : List.getLast? (Message.empty.progress.fields ++
      [⟨Tag.BodyLength, bodyLength⟩, ⟨95, decimal 2147483648⟩]) =
      some ⟨95, decimal 2147483648⟩ := rfl
  have fails : (Decode.scanner excerpt).step
      ⟨Message.empty.progress.fields ++
        [⟨Tag.BodyLength, bodyLength⟩, ⟨95, decimal 2147483648⟩], checksum⟩
      (Encode.wire ⟨96, value⟩ ++ more) =
        .fail (.thrown (.thrown ⟨.runtimeError, Decode.invalidLengthField 96⟩)) := by
    simp only [Decode.scanner, Decode.scanField, Decode.negativeLength, read,
      Decode.lastIsNegative, last, refused, Decode.nextField, Decode.dataField,
      Decode.runtimeError, Bool.false_eq_true, if_false]
  rw [(Decode.scanner excerpt).run_fail fails] at front
  have agrees := Decode.decode_agrees excerpt Message.empty
    (List.flatMap Encode.wire
        [⟨Tag.BodyLength, bodyLength⟩, ⟨95, decimal 2147483648⟩] ++
      (Encode.wire ⟨96, value⟩ ++ more))
  rw [front] at agrees
  obtain ⟨fault, thrown, -⟩ := agrees.failed _ rfl
  exact ⟨fault, thrown⟩

theorem encoded_but_not_decoded :
    ∃ (message after : Message) (capacity size : Nat) (written : Bytes),
      excerpt.Defines Tag.BodyLength false ∧
      excerpt.Defines Tag.CheckSum false ∧
      Encode.WellFormed excerpt message.fields ∧
      message.encode capacity .standard = (.ok size, after, written) ∧
      0 < size ∧
      ∀ decoded, Message.empty.decode excerpt (written.take size) ≠
        (.ok ⟨size, true⟩, decoded) := by
  obtain ⟨value, long, zeros⟩ : ∃ value : Bytes,
      value.length = 2147483648 ∧ Checksum.charSum value = 0 := by
    exact ⟨List.replicate 2147483648 0, List.length_replicate,
      charSum_zeros 2147483648⟩
  obtain ⟨checksum, formatted⟩ : ∃ checksum, Checksum.formatChecksum
      (Checksum.calculateChecksum (List.flatMap Encode.wire
        [⟨Tag.BodyLength, decimal 2147483666⟩, ⟨95, decimal 2147483648⟩,
          ⟨96, value⟩])) = .ok checksum :=
    ⟨_, Checksum.formatChecksum_calculateChecksum
      (nonnegativeRemainder_rawDataMessage zeros)⟩
  have prepared : (rawDataMessage value).withBodyLength .standard =
      [⟨Tag.BodyLength, decimal 2147483666⟩, ⟨95, decimal 2147483648⟩,
        ⟨96, value⟩] ++ [⟨Tag.CheckSum, []⟩] := by
    have body := calculateBodyLength_rawDataMessage long
    have put : (rawDataMessage value).withBodyLength .standard =
        [⟨Tag.BodyLength,
            decimal (rawDataMessage value).calculateBodyLength.toNat⟩,
          ⟨95, decimal value.length⟩, ⟨96, value⟩] ++ [⟨Tag.CheckSum, []⟩] := rfl
    rw [put, body, long]
    rfl
  have others : ∀ field ∈ ([⟨Tag.BodyLength, decimal 2147483666⟩,
      ⟨95, decimal 2147483648⟩, ⟨96, value⟩] : FieldCollection),
      field.tag ≠ Tag.CheckSum := by
    simp
  obtain ⟨bytes, bytesEq⟩ : ∃ bytes, List.flatMap Encode.wire
      [⟨Tag.BodyLength, decimal 2147483666⟩, ⟨95, decimal 2147483648⟩,
        ⟨96, value⟩] ++ Encode.wire ⟨Tag.CheckSum, checksum⟩ = bytes := ⟨_, rfl⟩
  obtain ⟨result, stored⟩ := Encode.encode_of_formatted rfl prepared others rfl
    formatted (Nat.le_of_eq (congrArg List.length bytesEq))
  rw [bytesEq] at result stored
  have encoded : (rawDataMessage value).encode bytes.length .standard =
      (.ok bytes.length,
        ((rawDataMessage value).encode bytes.length .standard).2.1, bytes) :=
    Prod.ext result (Prod.ext rfl stored)
  refine ⟨rawDataMessage value, _, _, _, _, excerpt_bodyLength,
    excerpt_checkSum, wellFormed_rawDataMessage value, encoded, ?_, ?_⟩
  · rw [← bytesEq, List.length_append, Encode.wire_length]
    omega
  · obtain ⟨fault, thrown⟩ := decode_rawDataMessage value
      (Encode.separator_not_mem_decimal 2147483666)
      (Encode.wire ⟨Tag.CheckSum, checksum⟩)
    intro decoded same
    rw [List.take_length, ← bytesEq] at same
    simp only [List.flatMap_cons, List.flatMap_nil, List.append_nil,
      List.append_assoc] at same thrown
    rw [same] at thrown
    cases thrown

end Session

end Crocofix
