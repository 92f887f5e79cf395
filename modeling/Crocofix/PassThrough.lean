/-
Encoding what was decoded.

A decoded message comes from a concatenation of fields, each with a text for its
tag.  The parser of the tags stops at the first byte that is no digit and takes
leading zeros, so the text need not be the one that the encoder writes, and the
lengths that are validated are those of the encoder's text.
-/

import Crocofix.EncodeDecode
import Crocofix.Session.Validate

namespace Crocofix

open Numeral

namespace Encode

open Decode (valueSeparator fieldSeparator)

/-! ### The texts of the tags -/

def tagTexts : FieldCollection → Bytes → List Bytes
  | [], _ => []
  | field :: rest, buffer =>
      let equals := buffer.idxOf valueSeparator
      buffer.take equals ::
        tagTexts rest (buffer.drop (equals + field.value.length + 2))

/-- Every tag stands in the buffer as the encoder writes it. -/
def IsCanonical (fields : FieldCollection) (buffer : Bytes) : Prop :=
  tagTexts fields buffer = fields.map fun field => decimalInt field.tag.toInt

instance (fields : FieldCollection) (buffer : Bytes) :
    Decidable (IsCanonical fields buffer) :=
  inferInstanceAs (Decidable (_ = _))

theorem tagTexts_spelled {front : List Spelled} {text : Bytes}
    (plain : ∀ spelled ∈ front, valueSeparator ∉ spelled.text)
    (plainText : valueSeparator ∉ text) (last : Field) (more : Bytes) :
    tagTexts (front.map Spelled.field ++ [last])
        (front.flatMap Spelled.bytes ++ (text ++ valueSeparator :: more)) =
      front.map Spelled.text ++ [text] := by
  induction front with
  | nil =>
      rw [List.flatMap_nil, List.nil_append, List.map_nil, List.nil_append, tagTexts,
        idxOf_of_not_mem more plainText, List.take_left]
      rfl
  | cons spelled front ih =>
      have here := plain spelled List.mem_cons_self
      have later := ih fun other member =>
        plain other (List.mem_cons_of_mem _ member)
      rw [List.flatMap_cons, List.append_assoc]
      generalize front.flatMap Spelled.bytes ++ (text ++ valueSeparator :: more) =
        rest at later ⊢
      have shape : spelled.bytes ++ rest = spelled.text ++ valueSeparator ::
          (spelled.field.value ++ fieldSeparator :: rest) := by
        simp [Spelled.bytes]
      have size : spelled.bytes.length =
          spelled.text.length + spelled.field.value.length + 2 := by
        simp only [Spelled.bytes, List.length_append, List.length_cons,
          List.length_nil]
        omega
      have position : (spelled.bytes ++ rest).idxOf valueSeparator =
          spelled.text.length := by
        rw [shape]
        exact idxOf_of_not_mem _ here
      rw [List.map_cons, List.cons_append, tagTexts, position, ← size,
        List.drop_left, later, shape, List.take_left]
      rfl

/-! ### What was decoded was spelled -/

/-- What a run of the decoder to the end of a message has found: fields in
front of the CheckSum field, and that. -/
structure Spells (before after : Decode.Progress) (taken : Bytes)
    (front : List Spelled) (last : Spelled) : Prop where
  fields : after.fields = before.fields ++ (front ++ [last]).map Spelled.field
  checksum : after.checksum =
    before.checksum + Decode.sumByte (front.flatMap Spelled.bytes)
  bytes : taken = front.flatMap Spelled.bytes ++ last.bytes
  plain : ∀ spelled ∈ front, valueSeparator ∉ spelled.text
  plainLast : valueSeparator ∉ last.text
  others : ∀ spelled ∈ front, spelled.field.tag ≠ Tag.CheckSum
  isLast : last.field.tag = Tag.CheckSum

theorem run_spelled (dictionary : OrchestrationFieldCollection)
    (progress : Decode.Progress) (input : Bytes)
    (finished : ((Decode.scanner dictionary).run progress input).ending =
      .finished) :
    ∃ front last, Spells progress
      ((Decode.scanner dictionary).run progress input).state
      (input.take ((Decode.scanner dictionary).run progress input).consumed)
      front last := by
  induction progress, input using (Decode.scanner dictionary).run_induction with
  | wait progress input waits =>
      rw [Scan.Scanner.run_wait _ waits] at finished
      cases finished
  | fail progress input stop fails =>
      rw [Scan.Scanner.run_fail _ fails] at finished
      cases finished
  | last progress input next size taken =>
      obtain ⟨nonnegative, field, decoded, rfl, ends⟩ := Decode.scanField_take taken
      obtain ⟨text, complete, bytes⟩ := complete_of_nextField decoded
      have plain := complete.plain
      have isLast : field.tag = Tag.CheckSum := of_decide_eq_true ends.symm
      rw [Scan.Scanner.run_last _ taken]
      refine ⟨[], ⟨text, field⟩, ?_, ?_, bytes, by simp, plain, by simp, isLast⟩
      · rw [Decode.Progress.store_of_checkSum isLast]
        rfl
      · rw [Decode.Progress.store_of_checkSum isLast]
        exact (UInt8.add_zero _).symm
  | take progress input next size taken ih =>
      obtain ⟨nonnegative, field, decoded, rfl, ends⟩ := Decode.scanField_take taken
      obtain ⟨text, complete, bytes⟩ := complete_of_nextField decoded
      have plain := complete.plain
      have other : field.tag ≠ Tag.CheckSum := of_decide_eq_false ends.symm
      rw [Scan.Scanner.run_take _ taken] at finished ⊢
      obtain ⟨front, last, spells⟩ := ih finished
      refine ⟨⟨text, field⟩ :: front, last, ?_, ?_, ?_, ?_, spells.plainLast, ?_,
        spells.isLast⟩
      · rw [Scan.Result.advance_state, spells.fields,
          Decode.Progress.store_of_ne other]
        simp
      · rw [Scan.Result.advance_state, spells.checksum,
          Decode.Progress.store_of_ne other, List.flatMap_cons,
          Decode.sumByte_append, UInt8.add_assoc, bytes]
      · rw [Scan.Result.advance_consumed, List.take_add, spells.bytes, bytes,
          List.flatMap_cons, List.append_assoc]
      · exact List.forall_mem_cons.mpr ⟨plain, spells.plain⟩
      · exact List.forall_mem_cons.mpr ⟨other, spells.others⟩

theorem decode_spelled {dictionary : OrchestrationFieldCollection}
    {buffer : Bytes} {message : Message}
    (decoded : Message.empty.decode dictionary buffer =
      (.ok ⟨buffer.length, true⟩, message)) :
    ∃ front last,
      Spells Message.empty.progress message.progress buffer front last ∧
      message.calculateChecksum =
        .ok (Decode.sumByte (front.flatMap Spelled.bytes)).toUInt32 := by
  have agrees := Decode.decode_agrees dictionary Message.empty buffer
  have run := run_spelled dictionary Message.empty.progress buffer
  rw [decoded] at agrees
  generalize (Decode.scanner dictionary).run Message.empty.progress buffer = here
    at agrees run
  cases ending : here.ending with
  | waiting =>
      have result := (agrees.waiting ending).1
      injection result with same
      injection same with _ complete
      cases complete
  | failed stop =>
      obtain ⟨fault, impossible, -⟩ := agrees.failed stop ending
      cases impossible
  | finished =>
      obtain ⟨result, after⟩ := agrees.finished ending
      injection result with same
      injection same with consumed
      change message = _ at after
      obtain ⟨front, last, spells⟩ := run ending
      rw [← consumed, List.take_length] at spells
      have sum : here.state.checksum =
          Decode.sumByte (front.flatMap Spelled.bytes) := by
        rw [spells.checksum]
        exact UInt8.zero_add _
      have left : message.progress = here.state := by
        simp [after, Message.progress]
      refine ⟨front, last, by rwa [left], ?_⟩
      rw [after, sum]
      rfl

/-! ### Both ways -/

/-- Encoding the message into a buffer of the given size stores these bytes. -/
def Reproduces (message : Message) (capacity : Nat) (buffer : Bytes) : Prop :=
  (message.encode capacity .standard).1 = .ok buffer.length ∧
    (message.encode capacity .standard).2.2 = buffer

instance (message : Message) (capacity : Nat) (buffer : Bytes) :
    Decidable (Reproduces message capacity buffer) :=
  inferInstanceAs (Decidable (_ ∧ _))

theorem withBodyLength_of_hasBodyLength {message : Message}
    (bodyLength : message.HasBodyLength) :
    message.withBodyLength .standard = message.fields := by
  obtain ⟨field, present, value⟩ := Option.map_eq_some_iff.mp bodyLength
  have tag := FieldCollection.tag_of_tryGet present
  have same : field = Field.ofUInt32 Tag.BodyLength message.calculateBodyLength := by
    rcases field with ⟨fieldTag, fieldValue⟩
    cases tag
    cases value
    rfl
  rw [same] at present
  exact FieldCollection.put_of_present present

def beforeCheckSum (buffer : Bytes) : Bytes := buffer.take (buffer.length - 7)

theorem beforeCheckSum_append (front : Bytes) {value : Bytes}
    (digits : value.length = 3) :
    beforeCheckSum (front ++ wire ⟨Tag.CheckSum, value⟩) = front := by
  have size : (wire ⟨Tag.CheckSum, value⟩).length = 7 := by
    have tag : (decimalInt Tag.CheckSum.toInt).length = 2 := by decide
    rw [wire_length, digits, tag]
  rw [beforeCheckSum, List.length_append, size, Nat.add_sub_cancel, List.take_left]

theorem flatMap_bytes_of_canonical {spelled : List Spelled}
    (canonical : spelled.map Spelled.text =
      spelled.map fun one => decimalInt one.field.tag.toInt) :
    spelled.flatMap Spelled.bytes = (spelled.map Spelled.field).flatMap wire := by
  induction spelled with
  | nil => rfl
  | cons one rest ih =>
      injection canonical with here later
      rw [List.flatMap_cons, List.map_cons, List.flatMap_cons, ih later]
      unfold Spelled.bytes wire
      rw [here]

theorem tagTexts_wire (front : FieldCollection) (last field : Field) :
    tagTexts (front ++ [last]) (front.flatMap wire ++ wire field) =
      (front.map fun one => decimalInt one.tag.toInt) ++
        [decimalInt field.tag.toInt] := by
  have plain (field : Field) :
      valueSeparator ∉ (Spelled.canonical field).text :=
    not_mem_decimalInt (by decide) (by decide) _
  have texts := @tagTexts_spelled (front.map Spelled.canonical)
    (decimalInt field.tag.toInt)
    (by
      intro spelled member
      obtain ⟨one, -, rfl⟩ := List.mem_map.mp member
      exact plain one)
    (plain field) last (field.value ++ [fieldSeparator])
  rw [List.flatMap_map, List.map_map, List.map_map] at texts
  have same : front.map (Spelled.field ∘ Spelled.canonical) = front := List.map_id _
  rwa [same] at texts

section passing

variable {front : List Spelled} {last : Spelled} {buffer : Bytes} {message : Message}

theorem fields_of_spells
    (spells : Spells Message.empty.progress message.progress buffer front last) :
    message.fields = front.map Spelled.field ++ [last.field] := by
  have all := spells.fields
  rwa [List.map_append] at all

theorem others_of_spells
    (spells : Spells Message.empty.progress message.progress buffer front last) :
    ∀ field ∈ front.map Spelled.field, field.tag ≠ Tag.CheckSum := by
  intro field member
  obtain ⟨spelled, inside, rfl⟩ := List.mem_map.mp member
  exact spells.others spelled inside

theorem isCanonical_iff_of_spells
    (spells : Spells Message.empty.progress message.progress buffer front last) :
    IsCanonical message.fields buffer ↔
      (front ++ [last]).map Spelled.text =
        (front ++ [last]).map fun one => decimalInt one.field.tag.toInt := by
  have texts := tagTexts_spelled spells.plain spells.plainLast last.field
    (last.field.value ++ [fieldSeparator])
  unfold IsCanonical
  rw [fields_of_spells spells, spells.bytes]
  unfold Spelled.bytes at texts ⊢
  rw [texts]
  simp

theorem value_of_hasChecksum
    (spells : Spells Message.empty.progress message.progress buffer front last)
    (sum : message.calculateChecksum =
      .ok (Decode.sumByte (front.flatMap Spelled.bytes)).toUInt32)
    (checksum : message.HasChecksum) :
    last.field.value = Checksum.zeroPadded3
      (Checksum.byteSum (front.flatMap Spelled.bytes) % 256) := by
  obtain ⟨field, value, present, calculated, formats⟩ := checksum
  have absent : FieldCollection.tryGet (front.map Spelled.field) Tag.CheckSum =
      none := by
    apply List.find?_eq_none.mpr
    intro other member same
    exact others_of_spells spells other member (of_decide_eq_true same)
  rw [fields_of_spells spells, FieldCollection.tryGet_append, absent,
    Option.none_or, FieldCollection.tryGet_cons, if_pos spells.isLast] at present
  rw [sum] at calculated
  injection calculated with same
  have text := Checksum.eq_of_formatChecksum formats
  rw [Option.some.inj present, text, ← same]
  simp [Decode.sumByte]

theorem reproduces_of_canonical {capacity : Nat}
    (spells : Spells Message.empty.progress message.progress buffer front last)
    (value : last.field.value = Checksum.zeroPadded3
      (Checksum.byteSum (front.flatMap Spelled.bytes) % 256))
    (bodyLength : message.HasBodyLength) (room : buffer.length ≤ capacity)
    (canonical : IsCanonical message.fields buffer)
    (nonnegative : Checksum.NonnegativeRemainder (beforeCheckSum buffer)) :
    Reproduces message capacity buffer := by
  have body := withBodyLength_of_hasBodyLength bodyLength
  rw [fields_of_spells spells] at body
  have texts := (isCanonical_iff_of_spells spells).mp canonical
  rw [List.map_append, List.map_append] at texts
  obtain ⟨frontTexts, lastText⟩ := List.append_inj texts (by simp)
  have frontBytes := flatMap_bytes_of_canonical frontTexts
  have lastBytes : last.bytes = wire last.field := by
    have alone := @flatMap_bytes_of_canonical [last] lastText
    simpa using alone
  have wired : last.field = ⟨Tag.CheckSum, last.field.value⟩ := by
    rw [← spells.isLast]
  have whole := spells.bytes
  have digits : last.field.value.length = 3 := by
    rw [value]
    exact Checksum.zeroPadded3_length (by omega)
  rw [lastBytes, wired] at whole
  rw [whole, beforeCheckSum_append _ digits] at nonnegative
  have formatted := Checksum.formatChecksum_calculateChecksum nonnegative
  rw [← value, frontBytes] at formatted
  rw [frontBytes] at whole
  rw [whole] at room ⊢
  exact encode_of_formatted rfl body (others_of_spells spells) spells.isLast
    formatted room

theorem canonical_of_reproduces {capacity : Nat}
    (spells : Spells Message.empty.progress message.progress buffer front last)
    (bodyLength : message.HasBodyLength)
    (reproduces : Reproduces message capacity buffer) :
    IsCanonical message.fields buffer ∧
      Checksum.NonnegativeRemainder (beforeCheckSum buffer) := by
  have body := withBodyLength_of_hasBodyLength bodyLength
  rw [fields_of_spells spells] at body
  obtain ⟨result, written⟩ := reproduces
  have positive : 0 < buffer.length := by
    rw [spells.bytes]
    simp [Spelled.bytes]
  unfold Message.encode at result written
  rw [body] at result written
  obtain ⟨checksum, formatted, -, outcome⟩ :=
    loop_complete (others_of_spells spells) spells.isLast result positive
  change (loop true capacity (front.map Spelled.field ++ [last.field])
    (front.map Spelled.field ++ [last.field]) []).written = buffer at written
  rw [outcome] at written
  change (front.map Spelled.field).flatMap wire ++ wire ⟨Tag.CheckSum, checksum⟩ =
    buffer at written
  have nonnegative : Checksum.NonnegativeRemainder
      ((front.map Spelled.field).flatMap wire) := by
    by_contra negative
    obtain ⟨exception, refused⟩ :=
      Checksum.formatChecksum_calculateChecksum_error negative
    rw [formatted] at refused
    cases refused
  constructor
  · unfold IsCanonical
    rw [fields_of_spells spells, ← written, tagTexts_wire, List.map_append,
      List.map_singleton, spells.isLast]
  · rw [Checksum.formatChecksum_calculateChecksum nonnegative] at formatted
    injection formatted with digits
    rw [← written, beforeCheckSum_append]
    · exact nonnegative
    · rw [← digits]
      exact Checksum.zeroPadded3_length (by omega)

end passing

/-- A message that was decoded completely and passes the checks of its checksum
and its body length is encoded to the bytes that it came from if and only if
every tag was spelled as the encoder spells it and the encoder can format the
checksum. -/
theorem encode_decoded_iff {dictionary : OrchestrationFieldCollection}
    {buffer : Bytes} {message : Message} {capacity : Nat}
    (decoded : Message.empty.decode dictionary buffer =
      (.ok ⟨buffer.length, true⟩, message))
    (checksum : message.HasChecksum) (bodyLength : message.HasBodyLength)
    (room : buffer.length ≤ capacity) :
    Reproduces message capacity buffer ↔
      IsCanonical message.fields buffer ∧
        Checksum.NonnegativeRemainder (beforeCheckSum buffer) := by
  obtain ⟨front, last, spells, sum⟩ := decode_spelled decoded
  constructor
  · exact canonical_of_reproduces spells bodyLength
  · rintro ⟨canonical, nonnegative⟩
    exact reproduces_of_canonical spells (value_of_hasChecksum spells sum checksum)
      bodyLength room canonical nonnegative

def piped (text : String) : Bytes :=
  (ascii text).map fun byte => if byte = 124 then fieldSeparator else byte

def zeroPadded : Bytes := piped "8=FIX.4.4|9=5|035=0|10=211|"

def euroSigns : Bytes :=
  piped "8=F|9=19|35=" ++ (List.replicate 5 [226, 130, 172]).flatten ++
    piped "|10=147|"

def decodedFrom (buffer : Bytes) : Message :=
  (Message.empty.decode .excerpt buffer).2

/-- A message with a leading zero in a tag is accepted and encoded to other bytes.  One
with five euro signs, whose bytes are negative characters, is accepted and cannot be
encoded. -/
theorem zeroPadded_not_reproduced :
    (Message.empty.decode .excerpt zeroPadded =
        (.ok ⟨zeroPadded.length, true⟩, decodedFrom zeroPadded) ∧
      (decodedFrom zeroPadded).HasChecksum ∧
      (decodedFrom zeroPadded).HasBodyLength ∧
      Reproduces (decodedFrom zeroPadded) 8192
        (piped "8=FIX.4.4|9=5|35=0|10=163|") ∧
      ¬ Reproduces (decodedFrom zeroPadded) 8192 zeroPadded) ∧
    Message.empty.decode .excerpt euroSigns =
        (.ok ⟨euroSigns.length, true⟩, decodedFrom euroSigns) ∧
      (decodedFrom euroSigns).HasChecksum ∧
      (decodedFrom euroSigns).HasBodyLength ∧
      ¬ Reproduces (decodedFrom euroSigns) 8192 euroSigns := by
  refine ⟨⟨by decide, ⟨⟨Tag.CheckSum, ascii "211"⟩, 211, by decide, by decide,
    by decide⟩, by decide, by decide, by decide⟩, by decide,
    ⟨⟨Tag.CheckSum, ascii "147"⟩, 147, by decide, by decide, by decide⟩, by decide,
    by decide⟩

theorem encode_decoded_iff_heartbeat :
    Reproduces (decodedFrom (piped "8=FIX.4.4|9=5|35=0|10=163|")) 8192
      (piped "8=FIX.4.4|9=5|35=0|10=163|") := by
  have decoded : Message.empty.decode .excerpt (piped "8=FIX.4.4|9=5|35=0|10=163|") =
      (.ok ⟨(piped "8=FIX.4.4|9=5|35=0|10=163|").length, true⟩,
        decodedFrom (piped "8=FIX.4.4|9=5|35=0|10=163|")) := by decide
  have checksum : (decodedFrom
      (piped "8=FIX.4.4|9=5|35=0|10=163|")).HasChecksum :=
    ⟨⟨Tag.CheckSum, ascii "163"⟩, 163, by decide, by decide, by decide⟩
  exact (encode_decoded_iff decoded checksum (by decide) (by decide)).mpr
    ⟨by decide, by decide⟩

end Encode

end Crocofix
