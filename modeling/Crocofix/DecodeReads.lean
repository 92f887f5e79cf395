/-
The positions of the buffer that decoding reads.

The length of a data field is peer-controlled text, and the separator behind its
value is looked for wherever that length points to, as long as this is not
behind the end of the buffer.
-/

import Crocofix.Spelled

namespace Crocofix

open Numeral

namespace Decode

/-! ### The positions -/

def span (first count : Nat) : List Int :=
  (List.range' first count).map Int.ofNat

/-- The positions that `std::find` reads: up to the byte, or to the end. -/
def findReads (buffer : Bytes) (first : Nat) (byte : UInt8) : List Int :=
  let rest := buffer.drop first
  span first (min (rest.idxOf byte + 1) rest.length)

/-- The positions that are read for a data field: the one of its separator, and
those of its value, if it is constructed. -/
def dataReads (fields : FieldCollection) (buffer : Bytes) (equals : Nat) : List Int :=
  match fields.getLast? with
  | none => []
  | some previous =>
      match stoi previous.value with
      | .error _ => []
      | .ok length =>
          let separator : Int := equals + length.toInt + 1
          if (buffer.length : Int) ≤ separator then []
          else if 0 ≤ length ∧ buffer[separator.toNat]? = some fieldSeparator then
            separator :: span (equals + 1) length.toInt.toNat
          else [separator]

/-- The positions that one iteration of the loop reads.  The tag, and the value
of a field that is not data, are read where they have been searched before. -/
def fieldReads (dictionary : OrchestrationFieldCollection)
    (fields : FieldCollection) (buffer : Bytes) (current : Nat) : List Int :=
  let rest := buffer.drop current
  let equals := current + rest.idxOf valueSeparator
  findReads buffer current valueSeparator ++
    match readTag dictionary rest with
    | some (.ok (_, true)) => dataReads fields buffer equals
    | some (.ok (_, false)) => findReads buffer (equals + 1) fieldSeparator
    | _ => []

/-- The positions that the loop of `message::decode` reads. -/
def loopReads (dictionary : OrchestrationFieldCollection) (buffer : Bytes) :
    Nat → Cursor → List Int
  | 0, _ => []
  | fuel + 1, cursor =>
      if cursor.current = buffer.length then []
      else
        fieldReads dictionary cursor.fields buffer cursor.current ++
          match nextField dictionary cursor.fields (buffer.take cursor.current)
              (buffer.drop cursor.current) with
          | .decoded field size =>
              if field.tag = Tag.CheckSum then []
              else
                loopReads dictionary buffer fuel
                  ⟨cursor.fields ++ [field], cursor.current + size,
                    cursor.current + size⟩
          | _ => []

end Decode

/-- The positions that `message::decode` reads; the bytes that count for the
checksum are read at its end. -/
def Message.decodeReads (dictionary : OrchestrationFieldCollection)
    (message : Message) (buffer : Bytes) : List Int :=
  Decode.loopReads dictionary buffer buffer.length ⟨message.fields, 0, 0⟩ ++
    match Decode.loop dictionary buffer buffer.length ⟨message.fields, 0, 0⟩ with
    | (.ok _, cursor) => Decode.span 0 cursor.checksumCurrent
    | (.error _, _) => []

namespace Decode

def Inside (buffer : Bytes) (positions : List Int) : Prop :=
  ∀ position ∈ positions, 0 ≤ position ∧ position < buffer.length

instance (buffer : Bytes) (positions : List Int) :
    Decidable (Inside buffer positions) :=
  inferInstanceAs (Decidable (∀ position ∈ positions, _))

/-- Behind complete fields the bytes hold the tag of a data field, with its '='
at an offset; `previous` is the field in front of it. -/
inductive DataFieldAt (dictionary : OrchestrationFieldCollection) :
    FieldCollection → Nat → Bytes → Field → Nat → Prop
  | here {fields : FieldCollection} {start : Nat} {rest : Bytes} {previous : Field}
      (text more : Bytes) (tag : Int32) (definition : OrchestrationField)
      (shape : rest = text ++ valueSeparator :: more)
      (plain : valueSeparator ∉ text) (parsed : fromChars text = some tag)
      (found : dictionary.get tag = .ok definition)
      (isData : definition.isData = true)
      (last : fields.getLast? = some previous) :
      DataFieldAt dictionary fields start rest previous (start + text.length)
  | later {fields : FieldCollection} {start equals : Nat} {rest : Bytes}
      {previous : Field} (spelled : Encode.Spelled) (more : Bytes)
      (shape : rest = spelled.bytes ++ more)
      (complete : Encode.Complete dictionary fields.getLast? spelled)
      (unfinished : spelled.field.tag ≠ Tag.CheckSum)
      (further : DataFieldAt dictionary (fields ++ [spelled.field])
        (start + spelled.bytes.length) more previous equals) :
      DataFieldAt dictionary fields start rest previous equals

/-- No length that stands in front of a data field points in front of the
buffer. -/
def LengthsInside (dictionary : OrchestrationFieldCollection)
    (fields : FieldCollection) (start : Nat) (rest : Bytes) : Prop :=
  ∀ previous equals length,
    DataFieldAt dictionary fields start rest previous equals →
      stoi previous.value = .ok length → 0 ≤ (equals : Int) + length.toInt + 1

/-! ### One field -/

theorem inside_append {buffer : Bytes} {front back : List Int} :
    Inside buffer (front ++ back) ↔ Inside buffer front ∧ Inside buffer back := by
  simp only [Inside, List.forall_mem_append]

theorem inside_span {buffer : Bytes} {first count : Nat}
    (within : first + count ≤ buffer.length) : Inside buffer (span first count) := by
  intro position member
  obtain ⟨offset, inside, rfl⟩ := List.mem_map.mp member
  have bounds := List.mem_range'_1.mp inside
  constructor
  · exact Int.natCast_nonneg offset
  · change (offset : Int) < buffer.length
    omega

theorem inside_findReads {buffer : Bytes} {first : Nat} (byte : UInt8)
    (within : first ≤ buffer.length) :
    Inside buffer (findReads buffer first byte) := by
  apply inside_span
  rw [List.length_drop]
  omega

theorem inside_dataReads_iff {fields : FieldCollection} {buffer : Bytes}
    {equals : Nat} :
    Inside buffer (dataReads fields buffer equals) ↔
      ∀ previous length, fields.getLast? = some previous →
        stoi previous.value = .ok length → 0 ≤ (equals : Int) + length.toInt + 1 := by
  cases last : fields.getLast? with
  | none => simp [dataReads, last, Inside]
  | some previous =>
      cases numeric : stoi previous.value with
      | error exception =>
          refine iff_of_true (by simp [dataReads, last, numeric, Inside]) ?_
          rintro _ other ⟨⟩ again
          rw [numeric] at again
          cases again
      | ok length =>
          simp only [dataReads, last, numeric]
          constructor
          · rintro inside _ other ⟨⟩ again
            rw [numeric] at again
            injection again with same
            subst same
            split at inside
            · omega
            · split at inside
              · exact (inside _ List.mem_cons_self).1
              · exact (inside _ List.mem_cons_self).1
          · intro aimed
            have front := aimed previous length rfl numeric
            split
            · exact fun position member => absurd member List.not_mem_nil
            · next before =>
                have here : Inside buffer [(equals : Int) + length.toInt + 1] := by
                  intro position member
                  rw [List.mem_singleton.mp member]
                  exact ⟨front, by omega⟩
                split
                · next both =>
                    have sign : 0 ≤ length.toInt := by
                      simpa [Int32.le_iff_toInt_le] using both.1
                    rw [← List.singleton_append, inside_append]
                    exact ⟨here, inside_span (by omega)⟩
                · exact here

/-- Whether one iteration stays inside is decided by the length that stands in
front of a data field. -/
theorem inside_fieldReads_iff {dictionary : OrchestrationFieldCollection}
    {fields : FieldCollection} {buffer : Bytes} {current : Nat}
    (within : current ≤ buffer.length) :
    Inside buffer (fieldReads dictionary fields buffer current) ↔
      ∀ tag previous length,
        readTag dictionary (buffer.drop current) = some (.ok (tag, true)) →
        fields.getLast? = some previous → stoi previous.value = .ok length →
          0 ≤ ((current + (buffer.drop current).idxOf valueSeparator : Nat) : Int) +
            length.toInt + 1 := by
  have searched := inside_findReads valueSeparator within
  unfold fieldReads
  simp only
  rw [inside_append]
  cases read : readTag dictionary (buffer.drop current) with
  | none =>
      refine iff_of_true ⟨searched, by simp [Inside]⟩ ?_
      intro tag previous length impossible
      cases impossible
  | some result =>
      rcases result with exception | ⟨tag, isData⟩
      · refine iff_of_true ⟨searched, by simp [Inside]⟩ ?_
        intro tag previous length impossible
        cases impossible
      · have found := readTag_within read
        rw [List.length_drop] at found
        cases isData with
        | false =>
            refine iff_of_true ⟨searched, inside_findReads _ (by omega)⟩ ?_
            intro tag previous length impossible
            cases impossible
        | true =>
            simp only
            rw [inside_dataReads_iff]
            constructor
            · rintro ⟨-, inside⟩ _ previous length - last numeric
              exact inside previous length last numeric
            · intro aimed
              exact ⟨searched, fun previous length last numeric =>
                aimed tag previous length rfl last numeric⟩

theorem lt_of_byteAt_none {seen rest : Bytes} {position : Int}
    (absent : byteAt seen rest position = none) (before : position < rest.length) :
    (seen.length : Int) + position < 0 := by
  unfold byteAt at absent
  split at absent
  · have outside := List.getElem?_eq_none_iff.mp absent
    omega
  · split at absent
    · have outside := List.getElem?_eq_none_iff.mp absent
      omega
    · omega

/-- A byte in front of the buffer is read only where a length points there. -/
theorem aimed_of_undefinedRead {dictionary : OrchestrationFieldCollection}
    {fields : FieldCollection} {seen rest : Bytes}
    (undefinedRead :
      nextField dictionary fields seen rest = .fault .undefinedRead) :
    ∃ tag previous length, readTag dictionary rest = some (.ok (tag, true)) ∧
      fields.getLast? = some previous ∧ stoi previous.value = .ok length ∧
      (seen.length : Int) + rest.idxOf valueSeparator + length.toInt + 1 < 0 := by
  unfold nextField at undefinedRead
  cases read : readTag dictionary rest with
  | none => simp [read] at undefinedRead
  | some result =>
      rcases result with exception | ⟨tag, isData⟩
      · simp [read] at undefinedRead
      · cases isData with
        | false =>
            simp only [read] at undefinedRead
            exact absurd undefinedRead (textField_ne_fault _ _ _ _)
        | true =>
            simp only [read] at undefinedRead
            cases last : fields.getLast? with
            | none =>
                simp only [dataField, last, runtimeError] at undefinedRead
                cases undefinedRead
            | some previous =>
                cases numeric : stoi previous.value with
                | error exception =>
                    simp only [dataField, last, numeric, runtimeError]
                      at undefinedRead
                    cases undefinedRead
                | ok length =>
                    refine ⟨tag, previous, length, rfl, rfl, numeric, ?_⟩
                    simp only [dataField, last, numeric] at undefinedRead
                    split at undefinedRead
                    · cases undefinedRead
                    · next before =>
                        split at undefinedRead
                        · next absent =>
                            have front := lt_of_byteAt_none absent (by omega)
                            omega
                        · split at undefinedRead
                          · cases undefinedRead
                          · split at undefinedRead
                            · cases undefinedRead
                            · cases undefinedRead

/-! ### The whole buffer -/

theorem dataFieldAt_iff {dictionary : OrchestrationFieldCollection}
    {fields : FieldCollection} (seen : Bytes) {start equals : Nat} {rest : Bytes}
    {previous : Field} :
    DataFieldAt dictionary fields start rest previous equals ↔
      (∃ tag, readTag dictionary rest = some (.ok (tag, true)) ∧
        fields.getLast? = some previous ∧
        equals = start + rest.idxOf valueSeparator) ∨
      ∃ field size,
        nextField dictionary fields seen rest = .decoded field size ∧
          field.tag ≠ Tag.CheckSum ∧
          DataFieldAt dictionary (fields ++ [field]) (start + size)
            (rest.drop size) previous equals := by
  constructor
  · intro found
    cases found with
    | here text more tag definition shape plain parsed found isData last =>
        refine .inl ⟨tag, ?_, last, ?_⟩
        · rw [shape, Encode.readTag_of_parsed plain parsed found, isData]
        · rw [shape, Encode.idxOf_of_not_mem more plain]
    | later spelled more shape complete unfinished further =>
        have decoded := (Encode.nextField_of_complete complete seen more).2
        refine .inr ⟨spelled.field, spelled.bytes.length, ?_, unfinished, ?_⟩
        · rw [shape, decoded]
        · rw [shape, List.drop_left]
          exact further
  · rintro (⟨tag, read, last, rfl⟩ | ⟨field, size, decoded, unfinished, further⟩)
    · obtain ⟨definition, isData, tags⟩ := Encode.readTag_spelled read
      have within := readTag_within read
      have text : (rest.take (rest.idxOf valueSeparator)).length =
          rest.idxOf valueSeparator := by
        rw [List.length_take]
        omega
      have shape : rest = rest.take (rest.idxOf valueSeparator) ++
          valueSeparator :: rest.drop (rest.idxOf valueSeparator + 1) := by
        have separator := (List.getElem?_eq_some_iff.mp tags.separates).2
        have dropped := List.drop_eq_getElem_cons within
        rw [separator] at dropped
        rw [← dropped, List.take_append_drop]
      rw [← text]
      exact .here _ _ tag definition shape tags.plain tags.parsed tags.found isData
        last
    · obtain ⟨spelled, more, rfl, complete, rfl, rfl⟩ :=
        Encode.split_of_nextField decoded
      rw [List.drop_left] at further
      exact .later spelled more rfl complete unfinished further

/-- The lengths that stand in front of data fields, those of the next field and
those behind it. -/
theorem lengthsInside_iff {dictionary : OrchestrationFieldCollection}
    {fields : FieldCollection} (seen : Bytes) {start : Nat} {rest : Bytes} :
    LengthsInside dictionary fields start rest ↔
      (∀ tag previous length, readTag dictionary rest = some (.ok (tag, true)) →
        fields.getLast? = some previous → stoi previous.value = .ok length →
          0 ≤ ((start + rest.idxOf valueSeparator : Nat) : Int) +
            length.toInt + 1) ∧
      ∀ field size, nextField dictionary fields seen rest = .decoded field size →
        field.tag ≠ Tag.CheckSum →
          LengthsInside dictionary (fields ++ [field]) (start + size)
            (rest.drop size) := by
  unfold LengthsInside
  constructor
  · intro inside
    constructor
    · intro tag previous length read last numeric
      exact inside previous _ length
        ((dataFieldAt_iff seen).mpr (.inl ⟨tag, read, last, rfl⟩)) numeric
    · intro field size decoded unfinished previous equals length further numeric
      exact inside previous equals length
        ((dataFieldAt_iff seen).mpr
          (.inr ⟨field, size, decoded, unfinished, further⟩)) numeric
  · rintro ⟨here, later⟩ previous equals length found numeric
    rcases (dataFieldAt_iff seen).mp found with
      ⟨tag, read, last, rfl⟩ | ⟨field, size, decoded, unfinished, further⟩
    · exact here tag previous length read last numeric
    · exact later field size decoded unfinished previous equals length further
        numeric

theorem lengthsInside_nil (dictionary : OrchestrationFieldCollection)
    (fields : FieldCollection) (start : Nat) :
    LengthsInside dictionary fields start [] := by
  rw [lengthsInside_iff []]
  constructor
  · intro tag previous length impossible
    cases impossible
  · intro field size impossible
    cases impossible

/-- The loop reads inside the buffer if and only if no length points in front of
it. -/
theorem inside_loopReads_iff {dictionary : OrchestrationFieldCollection}
    {buffer : Bytes} (fuel : Nat) (cursor : Cursor)
    (within : cursor.current ≤ buffer.length)
    (enough : buffer.length - cursor.current ≤ fuel) :
    Inside buffer (loopReads dictionary buffer fuel cursor) ↔
      LengthsInside dictionary cursor.fields cursor.current
        (buffer.drop cursor.current) := by
  have ended (cursor : Cursor) (done : cursor.current = buffer.length) :
      LengthsInside dictionary cursor.fields cursor.current
        (buffer.drop cursor.current) := by
    rw [done, List.drop_length]
    exact lengthsInside_nil dictionary _ _
  induction fuel generalizing cursor with
  | zero =>
      exact iff_of_true (fun position member => absurd member List.not_mem_nil)
        (ended cursor (by omega))
  | succ fuel ih =>
      unfold loopReads
      by_cases done : cursor.current = buffer.length
      · rw [if_pos done]
        exact iff_of_true (fun position member => absurd member List.not_mem_nil)
          (ended cursor done)
      · rw [if_neg done, inside_append, inside_fieldReads_iff within,
          lengthsInside_iff (buffer.take cursor.current)]
        apply and_congr_right
        intro _
        cases outcome : nextField dictionary cursor.fields
            (buffer.take cursor.current) (buffer.drop cursor.current) with
        | wait => simp [Inside]
        | fault fault => simp [Inside]
        | decoded field size =>
            obtain ⟨spelled, more, rfl, -, shape, rfl⟩ :=
              Encode.split_of_nextField outcome
            have left := congrArg List.length shape
            rw [List.length_drop, List.length_append, spelled.bytes_length] at left
            simp only [FieldOutcome.decoded.injEq]
            by_cases last : spelled.field.tag = Tag.CheckSum
            · rw [if_pos last]
              refine iff_of_true (fun position member => absurd member
                List.not_mem_nil) ?_
              rintro _ _ ⟨rfl, rfl⟩ unfinished
              exact absurd last unfinished
            · rw [if_neg last]
              have stillWithin : cursor.current + spelled.bytes.length ≤
                  buffer.length := by
                rw [spelled.bytes_length]
                omega
              have stillEnough : buffer.length -
                  (cursor.current + spelled.bytes.length) ≤ fuel := by
                rw [spelled.bytes_length]
                omega
              refine (ih ⟨cursor.fields ++ [spelled.field],
                cursor.current + spelled.bytes.length,
                cursor.current + spelled.bytes.length⟩ stillWithin
                stillEnough).trans ?_
              constructor
              · rintro further _ _ ⟨rfl, rfl⟩ _
                rw [List.drop_drop]
                exact further
              · intro further
                have later := further _ _ ⟨rfl, rfl⟩ last
                rwa [List.drop_drop] at later

/-- What the loop sums up lies inside the buffer, and where no length points in
front of the buffer, an error is an exception. -/
theorem loop_settles {dictionary : OrchestrationFieldCollection} {buffer : Bytes}
    (fuel : Nat) (cursor : Cursor) (within : cursor.current ≤ buffer.length)
    (behind : cursor.checksumCurrent ≤ cursor.current) :
    (loop dictionary buffer fuel cursor).2.checksumCurrent ≤ buffer.length ∧
      (LengthsInside dictionary cursor.fields cursor.current
          (buffer.drop cursor.current) →
        (loop dictionary buffer fuel cursor).1 ≠ .error .undefinedRead) := by
  have summed : cursor.checksumCurrent ≤ buffer.length := by omega
  induction fuel generalizing cursor with
  | zero => exact ⟨summed, fun _ impossible => by cases impossible⟩
  | succ fuel ih =>
      unfold loop
      by_cases done : cursor.current = buffer.length
      · rw [if_pos done]
        exact ⟨summed, fun _ impossible => by cases impossible⟩
      · rw [if_neg done]
        cases outcome : nextField dictionary cursor.fields
            (buffer.take cursor.current) (buffer.drop cursor.current) with
        | wait => exact ⟨summed, fun _ impossible => by cases impossible⟩
        | fault fault =>
            refine ⟨summed, ?_⟩
            intro inside same
            injection same with same
            rw [same] at outcome
            obtain ⟨tag, previous, length, read, last, numeric, front⟩ :=
              aimed_of_undefinedRead outcome
            have aimed := ((lengthsInside_iff (buffer.take cursor.current)).mp
              inside).1 tag previous length read last numeric
            rw [List.length_take] at front
            omega
        | decoded field size =>
            obtain ⟨spelled, more, rfl, -, shape, rfl⟩ :=
              Encode.split_of_nextField outcome
            have left := congrArg List.length shape
            rw [List.length_drop, List.length_append, spelled.bytes_length] at left
            simp only
            by_cases last : spelled.field.tag = Tag.CheckSum
            · rw [if_pos last]
              exact ⟨summed, fun _ impossible => by cases impossible⟩
            · rw [if_neg last]
              have stillWithin : cursor.current + spelled.bytes.length ≤
                  buffer.length := by
                rw [spelled.bytes_length]
                omega
              obtain ⟨bounded, settles⟩ := ih ⟨cursor.fields ++ [spelled.field],
                cursor.current + spelled.bytes.length,
                cursor.current + spelled.bytes.length⟩ stillWithin (Nat.le_refl _)
                stillWithin
              refine ⟨bounded, ?_⟩
              intro inside
              have further := ((lengthsInside_iff (buffer.take cursor.current)).mp
                inside).2 spelled.field spelled.bytes.length outcome last
              rw [List.drop_drop] at further
              exact settles further

/-- Every read of a call of `decode` is inside the buffer, and the call stores
fields and waits, or completes the message, or throws. -/
structure StaysInside (dictionary : OrchestrationFieldCollection)
    (message : Message) (buffer : Bytes) : Prop where
  reads : Inside buffer (message.decodeReads dictionary buffer)
  settles : (message.decode dictionary buffer).1 ≠ .error .undefinedRead

/-- Decoding stays inside the buffer if and only if no data field in it follows a
field whose value is a number below minus the offset behind the data field's
'='. -/
theorem staysInside_iff (dictionary : OrchestrationFieldCollection)
    (message : Message) (buffer : Bytes) :
    StaysInside dictionary message buffer ↔
      LengthsInside dictionary message.fields 0 buffer := by
  have looped := @inside_loopReads_iff dictionary buffer buffer.length
    ⟨message.fields, 0, 0⟩ (Nat.zero_le _) (Nat.sub_le _ _)
  obtain ⟨summed, settles⟩ := @loop_settles dictionary buffer buffer.length
    ⟨message.fields, 0, 0⟩ (Nat.zero_le _) (Nat.le_refl _)
  rw [List.drop_zero] at looped settles
  constructor
  · intro inside
    exact looped.mp (inside_append.mp inside.reads).1
  · intro aimed
    constructor
    · refine inside_append.mpr ⟨looped.mpr aimed, ?_⟩
      split
      · next complete cursor ran =>
          rw [ran] at summed
          change cursor.checksumCurrent ≤ buffer.length at summed
          exact inside_span (by omega)
      · exact fun position member => absurd member List.not_mem_nil
    · have settled := settles aimed
      unfold Message.decode
      split
      · next fault cursor ran =>
          rw [ran] at settled
          intro same
          injection same with same
          exact settled (congrArg Except.error same)
      · exact fun impossible => by cases impossible

def negativeLengthBytes : Bytes :=
  [Field.mk 95 (ascii "-20"), ⟨96, ascii "x"⟩].flatMap Encode.wire

/-- The separator of the data field is looked for ten bytes in front of the
buffer. -/
theorem negativeLengthBytes_outside :
    (-10) ∈ Message.empty.decodeReads .excerpt negativeLengthBytes ∧
      (Message.empty.decode .excerpt negativeLengthBytes).1 =
        .error .undefinedRead ∧
      ¬ StaysInside .excerpt Message.empty negativeLengthBytes := by
  have outside : (-10) ∈ Message.empty.decodeReads .excerpt negativeLengthBytes := by
    decide +kernel
  refine ⟨outside, by decide +kernel, ?_⟩
  intro inside
  have front := (inside.reads (-10) outside).1
  omega

end Decode

end Crocofix
