/-
Decoding a message in pieces.

The decoding loop is an instance of the restartable scanner: its state is the
list of fields and the checksum modulo 256.  `message::decode` is one run of
that scanner, so feeding a buffer in pieces gives what one call on the whole
buffer gives.
-/

import Crocofix.Decode

namespace Crocofix

open Numeral

namespace Decode

/-! ### One field, whatever surrounds it -/

section nextField

variable {dictionary : OrchestrationFieldCollection} {fields : FieldCollection}
  {rest : Bytes}

theorem nextField_seen (seen : Bytes)
    (nonnegative : negativeLength dictionary fields rest = false) :
    nextField dictionary fields seen rest =
      nextField dictionary fields [] rest := by
  unfold nextField
  cases read : readTag dictionary rest with
  | none => rfl
  | some result =>
      rcases result with exception | ⟨tag, isData⟩
      · rfl
      · cases isData with
        | false => rfl
        | true =>
            have sign : lastIsNegative fields = false := by
              simpa [negativeLength, read] using nonnegative
            rcases dataField_cases sign tag with ⟨text, same⟩ | ⟨length, same⟩
            · simp only [same]
            · simp only [same]

theorem nextField_decoded {field : Field} {size : Nat}
    (nonnegative : negativeLength dictionary fields rest = false)
    (decoded : nextField dictionary fields [] rest = .decoded field size) :
    0 < size ∧ size ≤ rest.length := by
  unfold nextField at decoded
  cases read : readTag dictionary rest with
  | none => simp [read] at decoded
  | some result =>
      rcases result with exception | ⟨tag, isData⟩
      · simp [read] at decoded
      · cases isData with
        | false =>
            simp only [read] at decoded
            exact (textField_size decoded).2
        | true =>
            have sign : lastIsNegative fields = false := by
              simpa [negativeLength, read] using nonnegative
            simp only [read] at decoded
            rcases dataField_cases sign tag with ⟨text, same⟩ | ⟨length, same⟩
            · rw [same] at decoded
              contradiction
            · rw [same] at decoded
              exact (framedField_size decoded).2

/-- A field that was decoded or refused stays so when more bytes arrive. -/
theorem nextField_append (more : Bytes)
    (nonnegative : negativeLength dictionary fields rest = false)
    (arrived : nextField dictionary fields [] rest ≠ .wait) :
    negativeLength dictionary fields (rest ++ more) = false ∧
      nextField dictionary fields [] (rest ++ more) =
        nextField dictionary fields [] rest := by
  unfold nextField at *
  cases read : readTag dictionary rest with
  | none => simp [read] at arrived
  | some result =>
      have again := readTag_append more read
      have within := readTag_within read
      rw [idxOf_append_of_readTag more read, again]
      rw [read] at arrived
      refine ⟨by simpa [negativeLength, read, again] using nonnegative, ?_⟩
      rcases result with exception | ⟨tag, isData⟩
      · rfl
      · cases isData with
        | false =>
            cases decoded : textField rest (rest.idxOf valueSeparator) tag with
            | wait => exact absurd decoded arrived
            | fault fault => exact absurd decoded (textField_ne_fault _ _ _ _)
            | decoded field size =>
                simp only [decoded]
                exact textField_append more within decoded
        | true =>
            have sign : lastIsNegative fields = false := by
              simpa [negativeLength, read] using nonnegative
            rcases dataField_cases sign tag with ⟨text, same⟩ | ⟨length, same⟩
            · simp only [same]
            · simp only [same] at arrived ⊢
              exact framedField_append more arrived

theorem nextField_of_negativeLength (seen : Bytes)
    (negative : negativeLength dictionary fields rest = true) :
    ∃ fault, nextField dictionary fields seen rest = .fault fault := by
  unfold negativeLength at negative
  split at negative
  · next tag read =>
      unfold lastIsNegative at negative
      split at negative
      · contradiction
      · next previous last =>
          split at negative
          · contradiction
          · next length numeric =>
              unfold nextField
              simp only [read]
              exact dataField_of_neg seen rest tag last numeric
                (by simpa using negative) (readTag_within read)
  · contradiction

end nextField

/-! ### The scanner -/

structure Progress where
  fields : FieldCollection
  checksum : UInt8
deriving DecidableEq, Repr

inductive Stop
  | thrown (fault : Fault)
  /-- A data field is preceded by a negative length. -/
  | negativeLength
deriving DecidableEq, Repr

/-- The exception is the one that was thrown; the outcome of a negative length
depends on bytes that the scanner does not see. -/
def Stop.Causes (stop : Stop) (fault : Fault) : Prop :=
  stop = .thrown fault ∨ stop = .negativeLength

def sumByte (buffer : Bytes) : UInt8 := UInt8.ofNat (Checksum.byteSum buffer)

theorem sumByte_append (front back : Bytes) :
    sumByte (front ++ back) = sumByte front + sumByte back := by
  simp [sumByte, Checksum.byteSum_append]

/-- The fields of a message, with the bytes of every field but the CheckSum
added to its checksum. -/
def Progress.store (progress : Progress) (field : Field) (bytes : Bytes) :
    Progress :=
  { fields := progress.fields ++ [field]
    checksum :=
      if field.tag = Tag.CheckSum then progress.checksum
      else progress.checksum + sumByte bytes }

def scanField (dictionary : OrchestrationFieldCollection) (progress : Progress)
    (rest : Bytes) : Scan.Outcome Progress Stop :=
  if negativeLength dictionary progress.fields rest then .fail .negativeLength
  else
    match nextField dictionary progress.fields [] rest with
    | .wait => .wait
    | .fault fault => .fail (.thrown fault)
    | .decoded field size =>
        .take (progress.store field (rest.take size)) size
          (field.tag = Tag.CheckSum)

theorem Progress.store_of_checkSum {progress : Progress} {field : Field}
    {bytes : Bytes} (last : field.tag = Tag.CheckSum) :
    progress.store field bytes =
      ⟨progress.fields ++ [field], progress.checksum⟩ := by
  simp only [Progress.store, if_pos last]

theorem Progress.store_of_ne {progress : Progress} {field : Field}
    {bytes : Bytes} (other : field.tag ≠ Tag.CheckSum) :
    progress.store field bytes =
      ⟨progress.fields ++ [field], progress.checksum + sumByte bytes⟩ := by
  simp only [Progress.store, if_neg other]

theorem scanField_decoded {dictionary : OrchestrationFieldCollection}
    (progress : Progress) {rest : Bytes} {field : Field} {size : Nat}
    (nonnegative : negativeLength dictionary progress.fields rest = false)
    (decoded :
      nextField dictionary progress.fields [] rest = .decoded field size) :
    scanField dictionary progress rest =
      .take (progress.store field (rest.take size)) size
        (field.tag = Tag.CheckSum) := by
  simp only [scanField, nonnegative, decoded, Bool.false_eq_true, if_false]

theorem scanField_take {dictionary : OrchestrationFieldCollection}
    {progress next : Progress} {rest : Bytes} {size : Nat} {last : Bool}
    (taken : scanField dictionary progress rest = .take next size last) :
    negativeLength dictionary progress.fields rest = false ∧
      ∃ field,
        nextField dictionary progress.fields [] rest = .decoded field size ∧
          next = progress.store field (rest.take size) ∧
          last = decide (field.tag = Tag.CheckSum) := by
  unfold scanField at taken
  split at taken
  · contradiction
  · next nonnegative =>
      refine ⟨by simpa using nonnegative, ?_⟩
      split at taken
      · contradiction
      · contradiction
      · next field size' decoded =>
          injection taken with nextEq sizeEq lastEq
          subst nextEq sizeEq lastEq
          exact ⟨field, decoded, rfl, rfl⟩

/-- The fields of a message as a restartable scanner. -/
def scanner (dictionary : OrchestrationFieldCollection) :
    Scan.Scanner Progress Stop UInt8 where
  step := scanField dictionary
  step_nil progress := rfl
  size_pos taken := by
    obtain ⟨nonnegative, field, decoded, -⟩ := scanField_take taken
    exact (nextField_decoded nonnegative decoded).1
  size_le taken := by
    obtain ⟨nonnegative, field, decoded, -⟩ := scanField_take taken
    exact (nextField_decoded nonnegative decoded).2
  take_append {progress rest next size last} more taken := by
    obtain ⟨nonnegative, field, decoded, rfl, rfl⟩ := scanField_take taken
    have bounded := (nextField_decoded nonnegative decoded).2
    obtain ⟨still, same⟩ :=
      nextField_append more nonnegative (by simp [decoded])
    rw [scanField_decoded progress still (same.trans decoded),
      List.take_append_of_le_length bounded]
  fail_append {progress rest stop} more fails := by
    unfold scanField at fails
    split at fails
    · next negative =>
        injection fails with same
        rw [scanField, if_pos (negativeLength_append more negative), same]
    · next nonnegative =>
        cases outcome : nextField dictionary progress.fields [] rest with
        | wait => simp [outcome] at fails
        | decoded field size => simp [outcome] at fails
        | fault fault =>
            obtain ⟨still, same⟩ := nextField_append more
              (by simpa using nonnegative) (by simp [outcome])
            simp only [outcome] at fails
            simpa [scanField, still, same, outcome] using fails

/-! ### A field is decided by its own bytes -/

theorem idxOf_take {byte : UInt8} {buffer : Bytes} {size : Nat}
    (member : byte ∈ buffer) (inside : buffer.idxOf byte < size) :
    (buffer.take size).idxOf byte = buffer.idxOf byte := by
  have early := (List.mem_take_iff_idxOf_lt member).mpr inside
  have whole : (buffer.take size ++ buffer.drop size).idxOf byte =
      (buffer.take size).idxOf byte := List.idxOf_append_of_mem early
  rwa [List.take_append_drop, eq_comm] at whole

theorem readTag_take {dictionary : OrchestrationFieldCollection} {rest : Bytes}
    {result : Except Exception (Int32 × Bool)} {size : Nat}
    (read : readTag dictionary rest = some result)
    (inside : rest.idxOf valueSeparator < size) (bounded : size ≤ rest.length) :
    (rest.take size).idxOf valueSeparator = rest.idxOf valueSeparator ∧
      readTag dictionary (rest.take size) = some result := by
  have within := readTag_within read
  have position := idxOf_take (List.idxOf_lt_length_iff.mp within) inside
  have front : (rest.take size).take (rest.idxOf valueSeparator) =
      rest.take (rest.idxOf valueSeparator) := by
    rw [List.take_take, Nat.min_eq_left (by omega)]
  refine ⟨position, ?_⟩
  simp only [readTag, if_neg (Nat.ne_of_lt within)] at read
  simp only [readTag, position, front, List.length_take]
  rwa [if_neg (by omega)]

theorem drop_take_add (rest : Bytes) (front size : Nat) :
    (rest.take (front + size)).drop front = (rest.drop front).take size := by
  rw [List.drop_take]
  congr 1
  omega

theorem textField_take {rest : Bytes} {equals size : Nat} {tag : Int32}
    {field : Field} (decoded : textField rest equals tag = .decoded field size) :
    equals < size ∧ textField (rest.take size) equals tag = .decoded field size := by
  unfold textField at *
  simp only at decoded
  split at decoded
  · contradiction
  · next found =>
      injection decoded with fieldEq sizeEq
      have within : (rest.drop (equals + 1)).idxOf fieldSeparator <
          (rest.drop (equals + 1)).length :=
        Nat.lt_of_le_of_ne List.idxOf_le_length found
      have shape : equals + 1 + (rest.drop (equals + 1)).idxOf fieldSeparator + 1 =
          equals + 1 + ((rest.drop (equals + 1)).idxOf fieldSeparator + 1) := by
        omega
      rw [← sizeEq, shape, drop_take_add]
      generalize rest.drop (equals + 1) = afterEquals at *
      have position := idxOf_take (List.idxOf_lt_length_iff.mp within)
        (Nat.lt_succ_self _)
      refine ⟨by omega, ?_⟩
      simp only [position, List.length_take, List.take_take]
      rw [if_neg (by omega), Nat.min_eq_left (by omega), fieldEq, ← Nat.add_assoc]

theorem framedField_take {rest : Bytes} {equals length size : Nat} {tag : Int32}
    {field : Field}
    (decoded : framedField rest equals tag length = .decoded field size) :
    equals < size ∧
      framedField (rest.take size) equals tag length = .decoded field size := by
  unfold framedField at *
  cases separator : rest[equals + length + 1]? with
  | none => simp [separator] at decoded
  | some byte =>
      simp only [separator] at decoded
      split at decoded
      · contradiction
      · next isSeparator =>
          injection decoded with fieldEq sizeEq
          have shape : equals + length + 2 = equals + 1 + (length + 1) := by omega
          subst sizeEq
          refine ⟨by omega, ?_⟩
          rw [List.getElem?_take_of_lt (by omega), separator]
          simp only [if_neg isSeparator]
          rw [shape, drop_take_add, List.take_take, Nat.min_eq_left (by omega),
            fieldEq]

theorem nextField_take {dictionary : OrchestrationFieldCollection}
    {fields : FieldCollection} {rest : Bytes} {field : Field} {size : Nat}
    (nonnegative : negativeLength dictionary fields rest = false)
    (decoded : nextField dictionary fields [] rest = .decoded field size) :
    negativeLength dictionary fields (rest.take size) = false ∧
      nextField dictionary fields [] (rest.take size) = .decoded field size := by
  have bounded := (nextField_decoded nonnegative decoded).2
  unfold nextField at *
  cases read : readTag dictionary rest with
  | none => simp [read] at decoded
  | some result =>
      rcases result with exception | ⟨tag, isData⟩
      · simp [read] at decoded
      · cases isData with
        | false =>
            simp only [read] at decoded
            obtain ⟨inside, again⟩ := textField_take decoded
            obtain ⟨position, readAgain⟩ := readTag_take read inside bounded
            simp only [negativeLength, readAgain, position, again, and_self]
        | true =>
            have sign : lastIsNegative fields = false := by
              simpa [negativeLength, read] using nonnegative
            simp only [read] at decoded
            rcases dataField_cases sign tag with ⟨text, same⟩ | ⟨length, same⟩
            · rw [same] at decoded
              contradiction
            · rw [same] at decoded
              obtain ⟨inside, again⟩ := framedField_take decoded
              obtain ⟨position, readAgain⟩ := readTag_take read inside bounded
              simp only [negativeLength, readAgain, position, same, again, sign,
                and_self]

theorem scanner_exact (dictionary : OrchestrationFieldCollection) :
    (scanner dictionary).Exact := by
  intro progress rest next size last taken
  obtain ⟨nonnegative, field, decoded, rfl, rfl⟩ := scanField_take taken
  obtain ⟨still, again⟩ := nextField_take nonnegative decoded
  have step := scanField_decoded progress still again
  rwa [List.take_take, Nat.min_self] at step

end Decode

/-- What a message carries from one call of `decode` to the next. -/
def Message.progress (message : Message) : Decode.Progress :=
  ⟨message.fields, message.decodeChecksum.toUInt8⟩

namespace Decode

def MeetsNegativeLength (dictionary : OrchestrationFieldCollection)
    (message : Message) (buffer : Bytes) : Prop :=
  ((scanner dictionary).run message.progress buffer).ending =
    .failed .negativeLength

/-! ### The loop is a run of the scanner -/

/-- What the loop leaves behind, against the run from the same place.  `base`
is the checksum before the call. -/
structure Follows (base : UInt8) (buffer : Bytes) (start : Nat)
    (here : Scan.Result Progress Stop) (left : Except Fault Bool × Cursor) :
    Prop where
  fields : left.2.fields = here.state.fields
  current : left.2.current = start + here.consumed
  checksum : here.state.checksum =
    base + sumByte (buffer.take left.2.checksumCurrent)
  waiting : here.ending = .waiting → left.1 = .ok false
  finished : here.ending = .finished → left.1 = .ok true
  failed : ∀ stop, here.ending = .failed stop →
    ∃ fault, left.1 = .error fault ∧ stop.Causes fault

theorem Follows.advance {base : UInt8} {buffer : Bytes} {start size : Nat}
    {here : Scan.Result Progress Stop} {left : Except Fault Bool × Cursor}
    (follows : Follows base buffer (start + size) here left) :
    Follows base buffer start (here.advance size) left :=
  { follows with
    current := by
      rw [follows.current, Scan.Result.advance_consumed, Nat.add_assoc] }

theorem follows_of_wait (base : UInt8) (buffer : Bytes) (cursor : Cursor)
    (level : cursor.checksumCurrent = cursor.current) :
    Follows base buffer cursor.current
      ⟨⟨cursor.fields, base + sumByte (buffer.take cursor.current)⟩, 0, .waiting⟩
      (.ok false, cursor) where
  fields := rfl
  current := rfl
  checksum := by rw [level]
  waiting _ := rfl
  finished impossible := by cases impossible
  failed _ impossible := by cases impossible

theorem follows_of_fail (base : UInt8) (buffer : Bytes) (cursor : Cursor)
    (level : cursor.checksumCurrent = cursor.current) {stop : Stop}
    {fault : Fault} (causes : stop.Causes fault) :
    Follows base buffer cursor.current
      ⟨⟨cursor.fields, base + sumByte (buffer.take cursor.current)⟩, 0,
        .failed stop⟩
      (.error fault, cursor) where
  fields := rfl
  current := rfl
  checksum := by rw [level]
  waiting impossible := by cases impossible
  finished impossible := by cases impossible
  failed other failed := by
    injection failed with stopEq
    exact ⟨fault, rfl, stopEq ▸ causes⟩

theorem follows_at_end (dictionary : OrchestrationFieldCollection)
    (base : UInt8) {buffer : Bytes} {cursor : Cursor}
    (level : cursor.checksumCurrent = cursor.current)
    (ended : cursor.current = buffer.length) :
    Follows base buffer cursor.current
      ((scanner dictionary).run
        ⟨cursor.fields, base + sumByte (buffer.take cursor.current)⟩
        (buffer.drop cursor.current))
      (.ok false, cursor) := by
  rw [List.drop_eq_nil_of_le (Nat.le_of_eq ended.symm), Scan.Scanner.run_nil]
  exact follows_of_wait base buffer cursor level

theorem loop_follows (dictionary : OrchestrationFieldCollection) (base : UInt8)
    (buffer : Bytes) (fuel : Nat) (cursor : Cursor)
    (within : cursor.current ≤ buffer.length)
    (enough : buffer.length - cursor.current ≤ fuel)
    (level : cursor.checksumCurrent = cursor.current) :
    Follows base buffer cursor.current
      ((scanner dictionary).run
        ⟨cursor.fields, base + sumByte (buffer.take cursor.current)⟩
        (buffer.drop cursor.current))
      (loop dictionary buffer fuel cursor) := by
  induction fuel generalizing cursor with
  | zero => exact follows_at_end dictionary base level (by omega)
  | succ fuel ih =>
      unfold loop
      by_cases ended : cursor.current = buffer.length
      · rw [if_pos ended]
        exact follows_at_end dictionary base level ended
      · rw [if_neg ended]
        cases negative : negativeLength dictionary cursor.fields
            (buffer.drop cursor.current) with
        | true =>
            obtain ⟨fault, outcome⟩ :=
              nextField_of_negativeLength (buffer.take cursor.current) negative
            have step : scanField dictionary
                ⟨cursor.fields, base + sumByte (buffer.take cursor.current)⟩
                (buffer.drop cursor.current) = .fail .negativeLength := by
              simp only [scanField, negative, if_true]
            rw [outcome, Scan.Scanner.run_fail (scanner dictionary) step]
            exact follows_of_fail base buffer cursor level (.inr rfl)
        | false =>
            rw [nextField_seen _ negative]
            cases outcome : nextField dictionary cursor.fields []
                (buffer.drop cursor.current) with
            | wait =>
                rw [Scan.Scanner.run_wait _
                  (by simp [scanner, scanField, negative, outcome])]
                exact follows_of_wait base buffer cursor level
            | fault fault =>
                have step : scanField dictionary
                    ⟨cursor.fields, base + sumByte (buffer.take cursor.current)⟩
                    (buffer.drop cursor.current) = .fail (.thrown fault) := by
                  simp only [scanField, negative, outcome, Bool.false_eq_true,
                    if_false]
                rw [Scan.Scanner.run_fail (scanner dictionary) step]
                exact follows_of_fail base buffer cursor level (.inl rfl)
            | decoded field size =>
                obtain ⟨positive, bounded⟩ := nextField_decoded negative outcome
                rw [List.length_drop] at bounded
                have step := scanField_decoded
                  ⟨cursor.fields, base + sumByte (buffer.take cursor.current)⟩
                  negative outcome
                simp only
                by_cases last : field.tag = Tag.CheckSum
                · rw [if_pos last]
                  rw [decide_eq_true last, Progress.store_of_checkSum last] at step
                  rw [Scan.Scanner.run_last _ step]
                  exact
                    { fields := rfl
                      current := rfl
                      checksum := by rw [level]
                      waiting := fun impossible => by cases impossible
                      finished := fun _ => rfl
                      failed := fun _ impossible => by cases impossible }
                · rw [if_neg last]
                  rw [decide_eq_false last, Progress.store_of_ne last,
                    UInt8.add_assoc, ← sumByte_append, ← List.take_add] at step
                  rw [Scan.Scanner.run_take _ step, List.drop_drop]
                  apply Follows.advance
                  have stillWithin : cursor.current + size ≤ buffer.length := by
                    omega
                  have stillEnough :
                      buffer.length - (cursor.current + size) ≤ fuel := by omega
                  exact ih ⟨cursor.fields ++ [field], cursor.current + size,
                    cursor.current + size⟩ stillWithin stillEnough rfl

/-! ### One call, and several -/

theorem toUInt8_accumulate (checksum : UInt32) (buffer : Bytes) :
    (Checksum.accumulate checksum buffer).toUInt8 =
      checksum.toUInt8 + sumByte buffer := by
  have residue := Checksum.accumulate_mod checksum buffer
  apply UInt8.toNat_inj.mp
  simp only [UInt32.toNat_toUInt8, UInt8.toNat_add, sumByte, UInt8.toNat_ofNat']
  omega

/-- What calls of `decode` return and leave, against one run of the scanner.
An exception leaves the checksum of the bytes of its own call out. -/
structure Agrees (here : Scan.Result Progress Stop)
    (called : Except Fault DecodeResult × Message) : Prop where
  fields : called.2.fields = here.state.fields
  waiting : here.ending = .waiting →
    called.1 = .ok ⟨here.consumed, false⟩ ∧ called.2.progress = here.state
  finished : here.ending = .finished →
    called.1 = .ok ⟨here.consumed, true⟩ ∧
      called.2 = ⟨here.state.fields, here.state.checksum.toUInt32, true⟩
  failed : ∀ stop, here.ending = .failed stop →
    ∃ fault, called.1 = .error fault ∧ stop.Causes fault

theorem decode_agrees (dictionary : OrchestrationFieldCollection)
    (message : Message) (buffer : Bytes) :
    Agrees ((scanner dictionary).run message.progress buffer)
      (message.decode dictionary buffer) := by
  have follows := loop_follows dictionary message.decodeChecksum.toUInt8 buffer
    buffer.length ⟨message.fields, 0, 0⟩ (Nat.zero_le _) (Nat.sub_le _ _) rfl
  simp only [List.take_zero, List.drop_zero] at follows
  have start : message.decodeChecksum.toUInt8 + sumByte [] =
      message.decodeChecksum.toUInt8 := by simp [sumByte]
  rw [start] at follows
  change Follows _ _ _ ((scanner dictionary).run message.progress buffer) _
    at follows
  unfold Message.decode
  generalize loop dictionary buffer buffer.length ⟨message.fields, 0, 0⟩ = left
    at follows
  generalize (scanner dictionary).run message.progress buffer = here at follows
  rcases left with ⟨outcome, cursor⟩
  have fields : cursor.fields = here.state.fields := follows.fields
  have consumed : cursor.current = here.consumed := by
    simpa using follows.current
  have checksum : (Checksum.accumulate message.decodeChecksum
      (buffer.take cursor.checksumCurrent)).toUInt8 = here.state.checksum := by
    rw [toUInt8_accumulate, ← follows.checksum]
  constructor
  · cases outcome <;> exact fields
  · intro waiting
    obtain rfl : outcome = .ok false := follows.waiting waiting
    simp [Message.progress, consumed, checksum, fields]
  · intro finished
    obtain rfl : outcome = .ok true := follows.finished finished
    simp [consumed, fields, ← checksum]
  · intro stop stops
    obtain ⟨fault, failed, causes⟩ := follows.failed stop stops
    obtain rfl : outcome = .error fault := failed
    exact ⟨fault, rfl, causes⟩

def addConsumed (before : Nat) :
    Except Fault DecodeResult × Message → Except Fault DecodeResult × Message
  | (.error fault, last) => (.error fault, last)
  | (.ok result, last) => (.ok ⟨before + result.consumed, result.complete⟩, last)

theorem waiting_of_decode {dictionary : OrchestrationFieldCollection}
    {message : Message} {buffer : Bytes} {consumed : Nat}
    (waits : (message.decode dictionary buffer).1 = .ok ⟨consumed, false⟩) :
    ((scanner dictionary).run message.progress buffer).ending = .waiting ∧
      ((scanner dictionary).run message.progress buffer).consumed = consumed := by
  have agrees := decode_agrees dictionary message buffer
  cases ending : ((scanner dictionary).run message.progress buffer).ending with
  | waiting =>
      have same := (agrees.waiting ending).1.symm.trans waits
      injection same with results
      injection results with consumedEq
      exact ⟨rfl, consumedEq⟩
  | finished =>
      have same := (agrees.finished ending).1.symm.trans waits
      injection same with results
      injection results with _ complete
      cases complete
  | failed stop =>
      obtain ⟨fault, fails, -⟩ := agrees.failed stop ending
      rw [fails] at waits
      cases waits

theorem run_checksum (dictionary : OrchestrationFieldCollection)
    (progress : Progress) (input : Bytes)
    (waiting : ((scanner dictionary).run progress input).ending = .waiting) :
    ((scanner dictionary).run progress input).state.checksum =
      progress.checksum +
        sumByte (input.take ((scanner dictionary).run progress input).consumed) := by
  induction progress, input using (scanner dictionary).run_induction with
  | wait progress input waits => simp [Scan.Scanner.run_wait _ waits, sumByte]
  | fail progress input stop fails =>
      simp [Scan.Scanner.run_fail _ fails] at waiting
  | last progress input next size taken =>
      simp [Scan.Scanner.run_last _ taken] at waiting
  | take progress input next size taken ih =>
      rw [Scan.Scanner.run_take _ taken] at waiting ⊢
      obtain ⟨-, field, -, rfl, last⟩ := scanField_take taken
      have other : field.tag ≠ Tag.CheckSum := of_decide_eq_false last.symm
      have later := ih waiting
      rw [Progress.store_of_ne other] at later ⊢
      rw [Scan.Result.advance_state, Scan.Result.advance_consumed, later,
        List.take_add, sumByte_append, UInt8.add_assoc]

end Decode

/-- Decode a message that arrives in pieces: every call is given the unconsumed
tail of the previous one followed by the next piece, until a call completes the
message or throws.  The result counts the bytes consumed by all calls. -/
def Message.feed (dictionary : OrchestrationFieldCollection) :
    Message → Bytes → List Bytes → Except Decode.Fault DecodeResult × Message
  | message, _, [] => (.ok ⟨0, false⟩, message)
  | message, tail, piece :: rest =>
      match message.decode dictionary (tail ++ piece) with
      | (.error fault, after) => (.error fault, after)
      | (.ok ⟨consumed, true⟩, after) => (.ok ⟨consumed, true⟩, after)
      | (.ok ⟨consumed, false⟩, after) =>
          Decode.addConsumed consumed
            (after.feed dictionary ((tail ++ piece).drop consumed) rest)

namespace Decode

theorem Agrees.advance {before : Nat} {there : Scan.Result Progress Stop}
    {called : Except Fault DecodeResult × Message} (agrees : Agrees there called) :
    Agrees (there.advance before) (addConsumed before called) := by
  rcases called with ⟨outcome, last⟩
  constructor
  · cases outcome <;> exact agrees.fields
  · intro waiting
    obtain ⟨rfl, resumed⟩ : outcome = .ok ⟨there.consumed, false⟩ ∧
        last.progress = there.state := agrees.waiting waiting
    exact ⟨rfl, resumed⟩
  · intro finished
    obtain ⟨rfl, completed⟩ : outcome = .ok ⟨there.consumed, true⟩ ∧
        last = ⟨there.state.fields, there.state.checksum.toUInt32, true⟩ :=
      agrees.finished finished
    exact ⟨rfl, completed⟩
  · intro stop stops
    obtain ⟨fault, failed, causes⟩ := agrees.failed stop stops
    obtain rfl : outcome = .error fault := failed
    exact ⟨fault, rfl, causes⟩

theorem feed_agrees (dictionary : OrchestrationFieldCollection)
    (message : Message) (tail : Bytes) (pieces : List Bytes) :
    Agrees ((scanner dictionary).feed message.progress tail pieces)
      (message.feed dictionary tail pieces) := by
  induction pieces generalizing message tail with
  | nil =>
      exact
        { fields := rfl
          waiting := fun _ => ⟨rfl, rfl⟩
          finished := fun impossible => by cases impossible
          failed := fun _ impossible => by cases impossible }
  | cons piece rest ih =>
      have agrees := decode_agrees dictionary message (tail ++ piece)
      unfold Scan.Scanner.feed
      unfold Message.feed
      generalize (scanner dictionary).run message.progress (tail ++ piece) = here
        at agrees ⊢
      generalize message.decode dictionary (tail ++ piece) = called at agrees ⊢
      rcases called with ⟨outcome, after⟩
      cases ending : here.ending with
      | waiting =>
          obtain ⟨rfl, resumed⟩ :
              outcome = .ok ⟨here.consumed, false⟩ ∧ after.progress = here.state :=
            agrees.waiting ending
          simp only [ending, ← resumed]
          exact (ih after ((tail ++ piece).drop here.consumed)).advance
      | finished =>
          obtain ⟨rfl, rfl⟩ : outcome = .ok ⟨here.consumed, true⟩ ∧
              after = ⟨here.state.fields, here.state.checksum.toUInt32, true⟩ :=
            agrees.finished ending
          simpa only [ending] using agrees
      | failed stop =>
          obtain ⟨fault, failed, -⟩ := agrees.failed stop ending
          obtain rfl : outcome = .error fault := failed
          simpa only [ending] using agrees

theorem feed_agrees_run (dictionary : OrchestrationFieldCollection)
    (message : Message) (pieces : List Bytes) :
    Agrees ((scanner dictionary).run message.progress pieces.flatten)
      (message.feed dictionary [] pieces) := by
  rw [← (scanner dictionary).feed_eq_run]
  exact feed_agrees dictionary message [] pieces

/-- `message::decode` is restartable: however a buffer is cut into pieces, the
calls on the pieces do what one call on the buffer does. -/
theorem feed_eq_decode (dictionary : OrchestrationFieldCollection)
    (message : Message) (pieces : List Bytes)
    (sound : ¬ MeetsNegativeLength dictionary message pieces.flatten) :
    (message.feed dictionary [] pieces).1 =
        (message.decode dictionary pieces.flatten).1 ∧
      (message.feed dictionary [] pieces).2.fields =
        (message.decode dictionary pieces.flatten).2.fields ∧
      ∀ consumed,
        (message.decode dictionary pieces.flatten).1 = .ok ⟨consumed, true⟩ →
          (message.feed dictionary [] pieces).2 =
            (message.decode dictionary pieces.flatten).2 := by
  have whole := decode_agrees dictionary message pieces.flatten
  have split := feed_agrees_run dictionary message pieces
  unfold MeetsNegativeLength at sound
  generalize (scanner dictionary).run message.progress pieces.flatten = here
    at whole split sound
  refine ⟨?_, split.fields.trans whole.fields.symm, ?_⟩
  · cases ending : here.ending with
    | waiting => rw [(split.waiting ending).1, (whole.waiting ending).1]
    | finished => rw [(split.finished ending).1, (whole.finished ending).1]
    | failed stop =>
        obtain ⟨left, leftFails, leftCauses⟩ := split.failed stop ending
        obtain ⟨right, rightFails, rightCauses⟩ := whole.failed stop ending
        have thrown : stop ≠ .negativeLength := fun negative =>
          sound (negative ▸ ending)
        have same := (leftCauses.resolve_right thrown).symm.trans
          (rightCauses.resolve_right thrown)
        injection same with faults
        rw [leftFails, rightFails, faults]
  · intro consumed complete
    cases ending : here.ending with
    | waiting =>
        rw [(whole.waiting ending).1] at complete
        cases complete
    | finished => rw [(split.finished ending).2, (whole.finished ending).2]
    | failed stop =>
        obtain ⟨fault, fails, -⟩ := whole.failed stop ending
        rw [fails] at complete
        cases complete

def cutMessage : List Bytes :=
  [ascii "8=FI", [88, 1, 57], ascii "5=3" ++ [1] ++ ascii "96=a" ++ [1],
    ascii "=" ++ [1] ++ ascii "10=00", ascii "0" ++ [1]]

theorem feed_cutMessage :
    (Message.empty.feed .excerpt [] cutMessage).1 =
      (Message.empty.decode .excerpt cutMessage.flatten).1 :=
  (feed_eq_decode .excerpt .empty cutMessage
    (by unfold MeetsNegativeLength; decide +kernel)).1

end Decode

end Crocofix
