/-
Decoding what was encoded.

A field can be read back when the dictionary knows its tag and either its value
contains no separator or, for a data field, the field before it holds the
length of the value.  The fields of such a list are found again one by one, and
the checksum that decoding accumulates is the one that encoding wrote.
-/

import Crocofix.Spelled

namespace Crocofix

open Numeral

namespace Encode

open Decode (valueSeparator fieldSeparator)

/-! ### Reading one encoded field -/

structure Readable (dictionary : OrchestrationFieldCollection)
    (previous : Option Field) (field : Field) : Prop where
  known : ∃ isData, dictionary.Defines field.tag isData
  text : dictionary.Defines field.tag false → fieldSeparator ∉ field.value
  data : dictionary.Defines field.tag true → ∃ before, previous = some before ∧
    before.value = decimal field.value.length ∧ field.value.length < 2147483648

theorem not_mem_decimalInt {byte : UInt8} (notDigit : isDigit byte = false)
    (notMinus : byte ≠ 45) (value : Int) : byte ∉ decimalInt value := by
  intro member
  have digits : byte ∉ decimal value.natAbs := fun inside => by
    rw [isDigit_of_mem_decimal inside] at notDigit
    contradiction
  unfold decimalInt at member
  split at member
  · rcases List.mem_cons.mp member with same | inside
    · exact notMinus same
    · exact digits inside
  · exact digits member

theorem Framed.complete {dictionary : OrchestrationFieldCollection}
    {previous : Option Field} {field : Field}
    (framed : Framed dictionary previous field) :
    Complete dictionary previous (.canonical field) where
  plain := not_mem_decimalInt (by decide) (by decide) _
  parsed := fromChars_decimalInt field.tag
  framed := framed

theorem Readable.framed {dictionary : OrchestrationFieldCollection}
    {previous : Option Field} {field : Field}
    (readable : Readable dictionary previous field) :
    Framed dictionary previous field := by
  obtain ⟨isData, defined⟩ := readable.known
  obtain ⟨definition, found, -, kind⟩ := id defined
  cases isData with
  | false => exact .text definition found kind (readable.text defined)
  | true =>
      obtain ⟨before, last, numeral, small⟩ := readable.data defined
      obtain ⟨length, numeric, nonneg, value⟩ := stoi_decimal_of_lt small
      have sign : 0 ≤ length.toInt := by
        simpa [Int32.lt_iff_toInt_lt] using nonneg
      rw [← numeral] at numeric
      exact .data definition found kind before length last numeric (by omega)

theorem nextField_wire {dictionary : OrchestrationFieldCollection}
    {fields : FieldCollection} {field : Field}
    (readable : Readable dictionary fields.getLast? field) (more : Bytes) :
    Decode.negativeLength dictionary fields (wire field ++ more) = false ∧
      Decode.nextField dictionary fields [] (wire field ++ more) =
        .decoded field (wire field).length :=
  nextField_of_complete readable.framed.complete [] more

/-! ### Reading a list of encoded fields -/

def ReadableFrom (dictionary : OrchestrationFieldCollection) :
    Option Field → FieldCollection → Prop
  | _, [] => True
  | previous, field :: rest =>
      Readable dictionary previous field ∧
        ReadableFrom dictionary (some field) rest

theorem run_wire {dictionary : OrchestrationFieldCollection}
    (progress : Decode.Progress) {front : FieldCollection}
    (readable : ReadableFrom dictionary progress.fields.getLast? front)
    (unfinished : ∀ field ∈ front, field.tag ≠ Tag.CheckSum) (more : Bytes) :
    (Decode.scanner dictionary).run progress (front.flatMap wire ++ more) =
      ((Decode.scanner dictionary).run
        ⟨progress.fields ++ front,
          progress.checksum + Decode.sumByte (front.flatMap wire)⟩ more).advance
        (front.flatMap wire).length := by
  induction front generalizing progress with
  | nil => simp [Decode.sumByte, Scan.Result.advance_zero]
  | cons field front ih =>
      obtain ⟨here, rest⟩ := readable
      have other := unfinished field List.mem_cons_self
      rw [List.flatMap_cons, List.append_assoc]
      obtain ⟨nonnegative, decoded⟩ :=
        nextField_wire here (front.flatMap wire ++ more)
      have step := Decode.scanField_decoded progress nonnegative decoded
      rw [decide_eq_false other, Decode.Progress.store_of_ne other,
        List.take_left] at step
      rw [Scan.Scanner.run_take _ step, List.drop_left,
        ih _ (by simpa using rest)
          (fun later member => unfinished later (List.mem_cons_of_mem _ member))]
      simp only [Scan.Result.advance_advance, List.length_append,
        List.append_assoc, List.singleton_append, UInt8.add_assoc,
        Decode.sumByte_append]

theorem readableFrom_append_singleton
    {dictionary : OrchestrationFieldCollection} {previous : Option Field}
    {front : FieldCollection} {last : Field} :
    ReadableFrom dictionary previous (front ++ [last]) ↔
      ReadableFrom dictionary previous front ∧
        Readable dictionary (front.getLast?.or previous) last := by
  induction front generalizing previous with
  | nil => simp [ReadableFrom]
  | cons field front ih =>
      simp only [List.cons_append, ReadableFrom, ih, and_assoc]
      cases front with
      | nil => simp
      | cons second rest => simp [List.getLast?_cons]

theorem decode_wire {dictionary : OrchestrationFieldCollection}
    {front : FieldCollection} {last : Field}
    (readable : ReadableFrom dictionary none (front ++ [last]))
    (unfinished : ∀ field ∈ front, field.tag ≠ Tag.CheckSum)
    (checksum : last.tag = Tag.CheckSum) :
    Message.empty.decode dictionary (front.flatMap wire ++ wire last) =
      (.ok ⟨(front.flatMap wire ++ wire last).length, true⟩,
        ⟨front ++ [last], (Decode.sumByte (front.flatMap wire)).toUInt32,
          true⟩) := by
  obtain ⟨frontReadable, lastReadable⟩ :=
    readableFrom_append_singleton.mp readable
  rw [Option.or_none] at lastReadable
  have fronts := run_wire Message.empty.progress frontReadable unfinished (wire last)
  obtain ⟨nonnegative, decoded⟩ := nextField_wire lastReadable []
  rw [List.append_nil] at nonnegative decoded
  have step := Decode.scanField_decoded
    ⟨front, Decode.sumByte (front.flatMap wire)⟩ nonnegative decoded
  rw [decide_eq_true checksum, Decode.Progress.store_of_checkSum checksum] at step
  have start : (⟨Message.empty.progress.fields ++ front,
      Message.empty.progress.checksum +
        Decode.sumByte (front.flatMap wire)⟩ : Decode.Progress) =
      ⟨front, Decode.sumByte (front.flatMap wire)⟩ := by
    simp [Message.progress, Message.empty]
  have finished : (Decode.scanner dictionary).run
      ⟨front, Decode.sumByte (front.flatMap wire)⟩ (wire last) =
        ⟨⟨front ++ [last], Decode.sumByte (front.flatMap wire)⟩,
          (wire last).length, .finished⟩ :=
    Scan.Scanner.run_last (Decode.scanner dictionary) step
  rw [start, finished] at fronts
  have agrees := Decode.decode_agrees dictionary Message.empty
    (front.flatMap wire ++ wire last)
  rw [fronts] at agrees
  obtain ⟨result, after⟩ := agrees.finished rfl
  refine Prod.ext (result.trans ?_) after
  simp [Scan.Result.advance]

/-! ### A whole message -/

/-- Every data field directly follows a field, other than the BodyLength field,
that holds the length of its value. -/
def DataFramed (dictionary : OrchestrationFieldCollection) :
    Option Field → FieldCollection → Prop
  | _, [] => True
  | previous, field :: rest =>
      (dictionary.Defines field.tag true → ∃ before, previous = some before ∧
        before.tag ≠ Tag.BodyLength ∧
        before.value = decimal field.value.length) ∧
      DataFramed dictionary (some field) rest

/-- The fields of a message that can be sent as it is. -/
structure WellFormed (dictionary : OrchestrationFieldCollection)
    (fields : FieldCollection) : Prop where
  positive : ∀ field ∈ fields, 0 < field.tag
  known : ∀ field ∈ fields, ∃ isData, dictionary.Defines field.tag isData
  oneBodyLength : fields.countP (fun field => field.tag = Tag.BodyLength) = 1
  oneCheckSum : fields.countP (fun field => field.tag = Tag.CheckSum) = 1
  checkSumLast : ∃ last, fields.getLast? = some last ∧ last.tag = Tag.CheckSum
  text : ∀ field ∈ fields, dictionary.Defines field.tag false →
    fieldSeparator ∉ field.value
  data : DataFramed dictionary none fields

def DataFits (dictionary : OrchestrationFieldCollection)
    (fields : FieldCollection) : Prop :=
  ∀ field ∈ fields, dictionary.Defines field.tag true →
    field.value.length < 2147483648

theorem separator_not_mem_decimal (value : Nat) :
    fieldSeparator ∉ decimal value := by
  intro member
  have digit := isDigit_of_mem_decimal member
  contradiction

theorem separator_not_mem_zeroPadded3 (value : Nat) :
    fieldSeparator ∉ Checksum.zeroPadded3 value := by
  intro member
  rcases List.mem_append.mp member with padding | digits
  · have zero := (List.mem_replicate.mp padding).2
    contradiction
  · exact separator_not_mem_decimal value digits

section rewriting

variable {dictionary : OrchestrationFieldCollection}

theorem readable_of_text {previous : Option Field} {field : Field}
    (defined : dictionary.Defines field.tag false)
    (text : fieldSeparator ∉ field.value) :
    Readable dictionary previous field where
  known := ⟨false, defined⟩
  text _ := text
  data isData := by cases defined.isData_unique isData

theorem readableFrom_rewriteTo {bodyLength : Bytes} {previous : Option Field}
    {fields : FieldCollection}
    (defined : dictionary.Defines Tag.BodyLength false)
    (bodyText : fieldSeparator ∉ bodyLength)
    (known : ∀ field ∈ fields, ∃ isData, dictionary.Defines field.tag isData)
    (text : ∀ field ∈ fields, dictionary.Defines field.tag false →
      fieldSeparator ∉ field.value)
    (framed : DataFramed dictionary previous fields)
    (fits : DataFits dictionary fields) :
    ReadableFrom dictionary
      (previous.map (FieldCollection.rewriteTo ⟨Tag.BodyLength, bodyLength⟩))
      (fields.map (FieldCollection.rewriteTo ⟨Tag.BodyLength, bodyLength⟩)) := by
  induction fields generalizing previous with
  | nil => trivial
  | cons field rest ih =>
      obtain ⟨here, later⟩ := framed
      refine ⟨?_, ih (fun other member => known other (List.mem_cons_of_mem _ member))
        (fun other member => text other (List.mem_cons_of_mem _ member)) later
        (fun other member => fits other (List.mem_cons_of_mem _ member))⟩
      by_cases body : field.tag = Tag.BodyLength
      · rw [FieldCollection.rewriteTo, if_pos body]
        exact readable_of_text defined bodyText
      · rw [FieldCollection.rewriteTo, if_neg body]
        exact
          { known := known field List.mem_cons_self
            text := text field List.mem_cons_self
            data := fun isData => by
              obtain ⟨before, rfl, other, numeral⟩ := here isData
              refine ⟨before, ?_, numeral, fits field List.mem_cons_self isData⟩
              rw [Option.map_some, FieldCollection.rewriteTo, if_neg other] }

end rewriting

def bodyLengthText (message : Message) : Bytes :=
  decimal message.calculateBodyLength.toNat

def rewritten (message : Message) (checksum : Bytes) : FieldCollection :=
  message.fields.map fun field =>
    FieldCollection.rewriteTo ⟨Tag.CheckSum, checksum⟩
      (FieldCollection.rewriteTo ⟨Tag.BodyLength, bodyLengthText message⟩ field)

theorem withBodyLength_standard {message : Message}
    (once : message.fields.countP (fun field => field.tag = Tag.BodyLength) = 1) :
    message.withBodyLength .standard =
      message.fields.map
        (FieldCollection.rewriteTo ⟨Tag.BodyLength, bodyLengthText message⟩) := by
  have replaced : FieldCollection.replaceFirst message.fields
      ⟨Tag.BodyLength, bodyLengthText message⟩ = _ :=
    FieldCollection.replaceFirst_of_countP_eq_one once
  change FieldCollection.put message.fields ⟨Tag.BodyLength, bodyLengthText message⟩ = _
  simp only [FieldCollection.put, FieldCollection.set, replaced, reduceCtorEq,
    if_false]

theorem map_rewriteTo_append_last {front : FieldCollection} {field last : Field}
    (others : ∀ old ∈ front, old.tag ≠ field.tag) (same : last.tag = field.tag) :
    (front ++ [last]).map (FieldCollection.rewriteTo field) = front ++ [field] := by
  rw [List.map_append, FieldCollection.map_rewriteTo_of_absent others,
    List.map_singleton, FieldCollection.rewriteTo, if_pos same]

/-- A successful encoding of fields that end with their only CheckSum. -/
theorem loop_complete {capacity size : Nat} {front : FieldCollection} {last : Field}
    (others : ∀ field ∈ front, field.tag ≠ Tag.CheckSum)
    (checksumTag : last.tag = Tag.CheckSum)
    (encoded : (loop true capacity (front ++ [last]) (front ++ [last]) []).result =
      .ok size)
    (positive : 0 < size) :
    ∃ checksum,
      Checksum.formatChecksum (Checksum.calculateChecksum (front.flatMap wire)) =
        .ok checksum ∧
      size = (front.flatMap wire ++ wire ⟨Tag.CheckSum, checksum⟩).length ∧
      loop true capacity (front ++ [last]) (front ++ [last]) [] =
        ⟨.ok size, front ++ [⟨Tag.CheckSum, checksum⟩],
          front.flatMap wire ++ wire ⟨Tag.CheckSum, checksum⟩⟩ := by
  rcases loop_append true
    (fun field member both => others field member both.1) capacity
    (front ++ [last]) [last] [] with same | small
  · rw [List.nil_append] at same
    rw [same] at encoded ⊢
    cases formatted : Checksum.formatChecksum
        (Checksum.calculateChecksum (front.flatMap wire)) with
    | error exception =>
        rw [loop_checksum_error [] checksumTag formatted] at encoded
        cases encoded
    | ok checksum =>
        obtain ⟨updated, replaced, stored⟩ :=
          loop_checksum capacity (front ++ [last]) [] (by simp) checksumTag formatted
        rw [FieldCollection.replaceFirst_append others checksumTag] at replaced
        obtain rfl := Option.some.inj replaced
        rw [stored] at encoded ⊢
        cases fits : encodeField capacity (front.flatMap wire)
            ⟨Tag.CheckSum, checksum⟩ with
        | error touched =>
            rw [fits] at encoded
            injection encoded with zero
            omega
        | ok whole =>
            obtain ⟨rfl, -⟩ := encodeField_ok fits
            rw [fits] at encoded
            injection encoded with sizeEq
            exact ⟨checksum, rfl, sizeEq.symm, by rw [← sizeEq]⟩
  · rw [small] at encoded
    injection encoded with zero
    omega

/-- The fields of a message with one BodyLength and, at its end, one CheckSum. -/
structure Trailed (fields : FieldCollection) : Prop where
  oneBodyLength : fields.countP (fun field => field.tag = Tag.BodyLength) = 1
  oneCheckSum : fields.countP (fun field => field.tag = Tag.CheckSum) = 1
  checkSumLast : ∃ last, fields.getLast? = some last ∧ last.tag = Tag.CheckSum

theorem WellFormed.trailed {dictionary : OrchestrationFieldCollection}
    {fields : FieldCollection} (wellFormed : WellFormed dictionary fields) :
    Trailed fields :=
  ⟨wellFormed.oneBodyLength, wellFormed.oneCheckSum, wellFormed.checkSumLast⟩

/-- What a successful encoding of such a message leaves behind: the fields in front
of the CheckSum are those with the new BodyLength. -/
theorem encode_trailed {message after : Message} {capacity size : Nat}
    {written : Bytes} (trailed : Trailed message.fields)
    (encoded : message.encode capacity .standard = (.ok size, after, written))
    (positive : 0 < size) :
    ∃ front last checksum,
      message.fields.map (FieldCollection.rewriteTo
        ⟨Tag.BodyLength, bodyLengthText message⟩) = front ++ [last] ∧
      (∀ field ∈ front, field.tag ≠ Tag.CheckSum) ∧
      after.fields = front ++ [⟨Tag.CheckSum, checksum⟩] ∧
      after.fields = rewritten message checksum ∧
      written = front.flatMap wire ++ wire ⟨Tag.CheckSum, checksum⟩ ∧
      size = written.length ∧
      Checksum.formatChecksum (Checksum.calculateChecksum (front.flatMap wire)) =
        .ok checksum := by
  obtain ⟨last, isLast, checksumTag⟩ := trailed.checkSumLast
  obtain ⟨plain, shape⟩ := List.getLast?_eq_some_iff.mp isLast
  have plainTags : ∀ field ∈ plain, field.tag ≠ Tag.CheckSum := by
    have once := trailed.oneCheckSum
    rw [shape, List.countP_append, List.countP_singleton,
      if_pos (decide_eq_true checksumTag)] at once
    have none : plain.countP (fun field => field.tag = Tag.CheckSum) = 0 := by
      omega
    intro field member same
    exact List.countP_eq_zero.mp none field member (decide_eq_true same)
  have lastKept : FieldCollection.rewriteTo
      ⟨Tag.BodyLength, bodyLengthText message⟩ last = last :=
    if_neg fun same : last.tag = Tag.BodyLength =>
      absurd (checksumTag.symm.trans same) (by decide)
  have prepared := withBodyLength_standard trailed.oneBodyLength
  have rewrites (checksum : Bytes) : rewritten message checksum =
      (message.fields.map (FieldCollection.rewriteTo
        ⟨Tag.BodyLength, bodyLengthText message⟩)).map
        (FieldCollection.rewriteTo ⟨Tag.CheckSum, checksum⟩) := by
    rw [List.map_map]
    rfl
  have others : ∀ field ∈ plain.map (FieldCollection.rewriteTo
      ⟨Tag.BodyLength, bodyLengthText message⟩), field.tag ≠ Tag.CheckSum := by
    intro field member
    obtain ⟨old, inside, rfl⟩ := List.mem_map.mp member
    rw [FieldCollection.rewriteTo_tag]
    exact plainTags old inside
  rw [shape, List.map_append, List.map_singleton, lastKept] at prepared rewrites ⊢
  generalize plain.map (FieldCollection.rewriteTo
    ⟨Tag.BodyLength, bodyLengthText message⟩) = front at *
  unfold Message.encode at encoded
  rw [prepared] at encoded
  injection encoded with resultEq restEq
  injection restEq with afterEq writtenEq
  obtain ⟨checksum, formatted, sizeEq, outcome⟩ :=
    loop_complete others checksumTag resultEq positive
  change (loop true capacity (front ++ [last]) (front ++ [last]) []).written =
    written at writtenEq
  change (Message.mk (loop true capacity (front ++ [last])
    (front ++ [last]) []).fields _ _) = after at afterEq
  rw [outcome] at writtenEq afterEq
  obtain rfl := writtenEq
  obtain rfl := afterEq
  have kept := (rewrites checksum).trans
    (map_rewriteTo_append_last others checksumTag)
  exact ⟨front, last, checksum, rfl, others, rfl, kept.symm, rfl, sizeEq, formatted⟩

theorem encode_wellFormed {dictionary : OrchestrationFieldCollection}
    {message after : Message} {capacity size : Nat} {written : Bytes}
    (bodyDefined : dictionary.Defines Tag.BodyLength false)
    (checksumDefined : dictionary.Defines Tag.CheckSum false)
    (wellFormed : WellFormed dictionary message.fields)
    (fits : DataFits dictionary message.fields)
    (encoded : message.encode capacity .standard = (.ok size, after, written))
    (positive : 0 < size) :
    ∃ front checksum,
      after.fields = front ++ [⟨Tag.CheckSum, checksum⟩] ∧
      after.fields = rewritten message checksum ∧
      (∀ field ∈ front, field.tag ≠ Tag.CheckSum) ∧
      written = front.flatMap wire ++ wire ⟨Tag.CheckSum, checksum⟩ ∧
      size = written.length ∧
      Checksum.formatChecksum (Checksum.calculateChecksum (front.flatMap wire)) =
        .ok checksum ∧
      ReadableFrom dictionary none (front ++ [⟨Tag.CheckSum, checksum⟩]) := by
  obtain ⟨front, last, checksum, shape, others, afterEq, kept, writtenEq, sizeEq,
    formatted⟩ := encode_trailed wellFormed.trailed encoded positive
  have readable : ReadableFrom dictionary none (message.fields.map
      (FieldCollection.rewriteTo ⟨Tag.BodyLength, bodyLengthText message⟩)) :=
    readableFrom_rewriteTo bodyDefined
      (separator_not_mem_decimal message.calculateBodyLength.toNat)
      wellFormed.known wellFormed.text wellFormed.data fits
  rw [shape] at readable
  have checksumText : fieldSeparator ∉ checksum := by
    rw [Checksum.eq_of_formatChecksum formatted]
    exact separator_not_mem_zeroPadded3 _
  have whole : ReadableFrom dictionary none
      (front ++ [⟨Tag.CheckSum, checksum⟩]) :=
    readableFrom_append_singleton.mpr
      ⟨(readableFrom_append_singleton.mp readable).1,
        readable_of_text checksumDefined checksumText⟩
  exact ⟨front, checksum, afterEq, kept, others, writtenEq, sizeEq, formatted, whole⟩

theorem formatChecksum_sumByte {buffer checksum : Bytes}
    (formatted :
      Checksum.formatChecksum (Checksum.calculateChecksum buffer) = .ok checksum) :
    Checksum.formatChecksum (Decode.sumByte buffer).toUInt32 = .ok checksum := by
  have nonnegative : Checksum.NonnegativeRemainder buffer := by
    by_contra negative
    obtain ⟨exception, refused⟩ :=
      Checksum.formatChecksum_calculateChecksum_error negative
    rw [formatted] at refused
    cases refused
  have value : (Decode.sumByte buffer).toUInt32.toNat =
      Checksum.byteSum buffer % 256 := by
    simp [Decode.sumByte]
  rw [Checksum.formatChecksum_calculateChecksum nonnegative] at formatted
  rw [Checksum.formatChecksum_of_lt (by omega), value, formatted]

/-- A well-formed message is read back with the fields that encoding left in
it, and with the checksum that encoding wrote. -/
theorem decode_encode {dictionary : OrchestrationFieldCollection}
    {message after : Message} {capacity size : Nat} {written : Bytes}
    (bodyDefined : dictionary.Defines Tag.BodyLength false)
    (checksumDefined : dictionary.Defines Tag.CheckSum false)
    (wellFormed : WellFormed dictionary message.fields)
    (fits : DataFits dictionary message.fields)
    (encoded : message.encode capacity .standard = (.ok size, after, written))
    (positive : 0 < size) :
    ∃ decoded checksum,
      Message.empty.decode dictionary (written.take size) =
        (.ok ⟨size, true⟩, decoded) ∧
      decoded.fields = after.fields ∧
      after.fields = rewritten message checksum ∧
      ∃ value, decoded.calculateChecksum = .ok value ∧
        Checksum.formatChecksum value = .ok checksum := by
  obtain ⟨front, checksum, afterEq, rewrites, others, rfl, rfl, formatted,
    readable⟩ := encode_wellFormed bodyDefined checksumDefined wellFormed fits
      encoded positive
  rw [List.take_length]
  exact ⟨_, checksum, decode_wire readable others rfl, afterEq.symm, rewrites,
    _, rfl, formatChecksum_sumByte formatted⟩

/-! ### The body length of the message that was read back -/

theorem calculateBodyLength_rewritten {message decoded : Message}
    {checksum : Bytes}
    (once : message.fields.countP (fun field => field.tag = Tag.BodyLength) = 1)
    (fields : decoded.fields = rewritten message checksum) :
    decoded.calculateBodyLength = message.calculateBodyLength := by
  have composed : rewritten message checksum =
      (message.fields.map (FieldCollection.rewriteTo
        ⟨Tag.BodyLength, bodyLengthText message⟩)).map
        (FieldCollection.rewriteTo ⟨Tag.CheckSum, checksum⟩) := by
    rw [List.map_map]
    rfl
  unfold Message.calculateBodyLength
  rw [fields, composed, Message.bodyLengthLoop_rewriteTo_checkSum]
  rw [← withBodyLength_standard once]
  exact message.calculateBodyLength_withBodyLength .standard

theorem tryGet_map_rewriteTo (fields : FieldCollection) (field : Field)
    (tag : Int32) :
    FieldCollection.tryGet (fields.map (FieldCollection.rewriteTo field)) tag =
      (fields.tryGet tag).map (FieldCollection.rewriteTo field) := by
  induction fields with
  | nil => rfl
  | cons old rest ih =>
      rw [List.map_cons, FieldCollection.tryGet_cons, FieldCollection.tryGet_cons,
        FieldCollection.rewriteTo_tag, ih]
      split <;> rfl

/-! ### The checksum on both sides -/

def trailer (buffer : Bytes) : Field :=
  ⟨Tag.CheckSum, Checksum.zeroPadded3 (Checksum.byteSum buffer % 256)⟩

/-- For this buffer the static calculation, the checksum field that the encoder
writes behind it and the checksum that the decoder accumulates over it are all
the sum of the bytes modulo 256. -/
structure ChecksumsAgree (buffer : Bytes) : Prop where
  calculated : (Checksum.calculateChecksum buffer).toNat =
    Checksum.byteSum buffer % 256
  formatted : Checksum.formatChecksum (Checksum.calculateChecksum buffer) =
    .ok (trailer buffer).value
  encoded : ∀ (message : Message) (options : EncodeOptions) (capacity : Nat)
      (front back : FieldCollection) (last : Field),
    options.setChecksum = true →
    message.withBodyLength options = front ++ last :: back →
    (∀ field ∈ front, field.tag ≠ Tag.CheckSum) → last.tag = Tag.CheckSum →
    front.flatMap wire = buffer →
    (buffer ++ wire (trailer buffer)).length ≤ capacity →
    (message.encode capacity options).1 =
        .ok (buffer ++ wire (trailer buffer)).length ∧
      (message.encode capacity options).2.2 = buffer ++ wire (trailer buffer)
  decoded : ∀ (dictionary : OrchestrationFieldCollection) (message : Message)
      (checksum : Bytes) (pieces : List Bytes),
    dictionary.Defines Tag.CheckSum false → fieldSeparator ∉ checksum →
    message.decodeChecksum = 0 →
    (message.decode dictionary buffer).1 = .ok ⟨buffer.length, false⟩ →
    pieces.flatten = buffer ++ wire ⟨Tag.CheckSum, checksum⟩ →
    (message.feed dictionary [] pieces).1 = .ok ⟨pieces.flatten.length, true⟩ ∧
      (message.feed dictionary [] pieces).2.calculateChecksum =
        .ok (UInt32.ofNat (Checksum.byteSum buffer % 256))

theorem encode_of_formatted {message : Message}
    {options : EncodeOptions} {capacity : Nat} {front back : FieldCollection}
    {last : Field} {checksum : Bytes} (sets : options.setChecksum = true)
    (prepared : message.withBodyLength options = front ++ last :: back)
    (others : ∀ field ∈ front, field.tag ≠ Tag.CheckSum)
    (checksumTag : last.tag = Tag.CheckSum)
    (formatted : Checksum.formatChecksum
      (Checksum.calculateChecksum (front.flatMap wire)) = .ok checksum)
    (room : (front.flatMap wire ++ wire ⟨Tag.CheckSum, checksum⟩).length ≤ capacity) :
    (message.encode capacity options).1 =
        .ok (front.flatMap wire ++ wire ⟨Tag.CheckSum, checksum⟩).length ∧
      (message.encode capacity options).2.2 =
        front.flatMap wire ++ wire ⟨Tag.CheckSum, checksum⟩ := by
  have frontFits : ([] ++ front.flatMap wire).length ≤ capacity := by
    rw [List.length_append] at room
    rw [List.nil_append]
    omega
  have fronts := loop_append_of_le true
    (fun field member both => others field member both.1)
    (front ++ last :: back) (last :: back) frontFits
  obtain ⟨updated, -, stored⟩ := loop_checksum capacity (front ++ last :: back)
    back (by simp) checksumTag formatted
  rw [List.nil_append, stored, encodeField_of_le room] at fronts
  simp only [Message.encode, prepared, sets, fronts, and_self]

theorem feed_of_waiting {dictionary : OrchestrationFieldCollection}
    {message : Message} {buffer checksum : Bytes} {pieces : List Bytes}
    (defined : dictionary.Defines Tag.CheckSum false)
    (text : fieldSeparator ∉ checksum)
    (waits : (message.decode dictionary buffer).1 = .ok ⟨buffer.length, false⟩)
    (whole : pieces.flatten = buffer ++ wire ⟨Tag.CheckSum, checksum⟩) :
    (message.feed dictionary [] pieces).1 = .ok ⟨pieces.flatten.length, true⟩ ∧
      (message.feed dictionary [] pieces).2.calculateChecksum =
        .ok (message.decodeChecksum.toUInt8 + Decode.sumByte buffer).toUInt32 := by
  obtain ⟨waiting, consumed⟩ := Decode.waiting_of_decode waits
  have checksumOf := Decode.run_checksum dictionary message.progress buffer waiting
  have tail := (Decode.scanner dictionary).run_append_of_waiting message.progress
    buffer (wire ⟨Tag.CheckSum, checksum⟩) waiting
  have agrees := Decode.feed_agrees_run dictionary message pieces
  rw [whole, tail] at agrees
  rw [consumed, List.take_length] at checksumOf
  generalize (Decode.scanner dictionary).run message.progress buffer = here
    at agrees consumed checksumOf
  rw [consumed, List.drop_length, List.nil_append] at agrees
  have readable : Readable dictionary here.state.fields.getLast?
      ⟨Tag.CheckSum, checksum⟩ := readable_of_text defined text
  obtain ⟨nonnegative, decoded⟩ := nextField_wire readable []
  rw [List.append_nil] at nonnegative decoded
  have step := Decode.scanField_decoded here.state nonnegative decoded
  rw [decide_eq_true (by rfl), Decode.Progress.store_of_checkSum rfl] at step
  have finished : (Decode.scanner dictionary).run here.state
      (wire ⟨Tag.CheckSum, checksum⟩) = ⟨_, _, .finished⟩ :=
    Scan.Scanner.run_last (Decode.scanner dictionary) step
  rw [finished] at agrees
  obtain ⟨result, after⟩ := agrees.finished rfl
  refine ⟨result.trans ?_, ?_⟩
  · simp [whole, Scan.Result.advance]
  · rw [after]
    exact congrArg (Except.ok ∘ UInt8.toUInt32) checksumOf

theorem sumByte_toUInt32 (buffer : Bytes) :
    (Decode.sumByte buffer).toUInt32 =
      UInt32.ofNat (Checksum.byteSum buffer % 256) := by
  apply UInt32.toNat_inj.mp
  simp only [Decode.sumByte, UInt8.toNat_toUInt32, UInt8.toNat_ofNat',
    UInt32.toNat_ofNat']
  omega

/-- Everything agrees exactly for the buffers whose signed sum leaves no
negative remainder.  The decoder is right for all of them. -/
theorem checksumsAgree_iff (buffer : Bytes) :
    ChecksumsAgree buffer ↔ Checksum.NonnegativeRemainder buffer := by
  constructor
  · intro agree
    exact (Checksum.calculateChecksum_eq_iff buffer).mp agree.calculated
  · intro nonnegative
    have formatted := Checksum.formatChecksum_calculateChecksum nonnegative
    refine ⟨(Checksum.calculateChecksum_eq_iff buffer).mpr nonnegative,
      formatted, ?_, ?_⟩
    · intro message options capacity front back last sets prepared others
        checksumTag same room
      subst same
      exact encode_of_formatted sets prepared others checksumTag formatted room
    · intro dictionary message checksum pieces defined text fresh waits whole
      obtain ⟨result, value⟩ := feed_of_waiting defined text waits whole
      refine ⟨result, value.trans ?_⟩
      rw [fresh, ← sumByte_toUInt32]
      exact congrArg (Except.ok ∘ UInt8.toUInt32) (UInt8.zero_add _)

def euroMessage : Message :=
  { Message.empty with fields := [⟨58, [226, 130, 172]⟩, ⟨Tag.CheckSum, []⟩] }

theorem encode_euroMessage :
    ¬ ChecksumsAgree (wire ⟨58, [226, 130, 172]⟩) ∧
      (euroMessage.encode 8192 .standard).1 = .error ⟨.runtimeError,
        ascii "Cannot format CheckSum that is greater than 3 digits '" ++
          ascii "4294967227'"⟩ := by
  constructor
  · rw [checksumsAgree_iff]
    decide
  · decide

end Encode

end Crocofix
