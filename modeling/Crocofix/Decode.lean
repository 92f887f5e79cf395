/-
Decoding of tag=value<SOH> pairs, and its restartability.

A field is framed by the next separator, except that a field whose tag is
marked as data is framed by the value of the field before it.  The length of a
data field is peer-controlled text; a negative one moves the separator test to
the left of the field, possibly in front of the buffer, and no such field is
ever stored.
-/

import Crocofix.Library.Scan
import Crocofix.Checksum
import Crocofix.Dictionary
import Crocofix.Message

namespace Crocofix

open Numeral

namespace Decode

def valueSeparator : UInt8 := 61
def fieldSeparator : UInt8 := 1

inductive Fault
  | thrown (exception : Exception)
  /-- A byte in front of the buffer is read. -/
  | undefinedRead
deriving DecidableEq, Repr

/-- What one iteration of the decoding loop makes of the bytes at `current`. -/
inductive FieldOutcome
  | wait
  | fault (fault : Fault)
  | decoded (field : Field) (size : Nat)
deriving DecidableEq, Repr

def runtimeError (text : Bytes) : FieldOutcome :=
  .fault (.thrown ⟨.runtimeError, text⟩)

def parsedDataField (tag : Int32) (problem : String) : Bytes :=
  ascii "parsed a data field with tag=" ++ decimalInt tag.toInt ++ ascii problem

def noLengthField (tag : Int32) : Bytes :=
  parsedDataField tag " that was not preceeded by a length field"

def invalidLengthField (tag : Int32) : Bytes :=
  parsedDataField tag
    " but the preceeding field value was not a valid numeric length"

/-- The byte at a position counted from `current`; the bytes of the buffer in
front of `current` are at negative positions. -/
def byteAt (seen rest : Bytes) (position : Int) : Option UInt8 :=
  if 0 ≤ position then rest[position.toNat]?
  else if 0 ≤ (seen.length : Int) + position then
    seen[((seen.length : Int) + position).toNat]?
  else none

/-- The branch for a tag that the dictionary marks as data. -/
def dataField (fields : FieldCollection) (seen rest : Bytes) (equals : Nat)
    (tag : Int32) : FieldOutcome :=
  match fields.getLast? with
  | none => runtimeError (noLengthField tag)
  | some previous =>
      match stoi previous.value with
      | .error _ => runtimeError (invalidLengthField tag)
      | .ok length =>
          let separator : Int := equals + length.toInt + 1
          if (rest.length : Int) ≤ separator then .wait
          else
            match byteAt seen rest separator with
            | none => .fault .undefinedRead
            | some byte =>
                if byte ≠ fieldSeparator then
                  runtimeError (ascii "parsed a data field wtih tag=" ++
                    decimalInt tag.toInt ++
                    ascii " but the field did not have a trailing field separator")
                else if length < 0 then
                  -- Constructing the value from a view of a huge size throws.
                  .fault (.thrown ⟨.lengthError, ascii "basic_string::_M_create"⟩)
                else
                  .decoded ⟨tag, (rest.drop (equals + 1)).take length.toInt.toNat⟩
                    (equals + length.toInt.toNat + 2)

/-- The branch for every other tag. -/
def textField (rest : Bytes) (equals : Nat) (tag : Int32) : FieldOutcome :=
  let afterEquals := rest.drop (equals + 1)
  let delimiter := afterEquals.idxOf fieldSeparator
  if delimiter = afterEquals.length then .wait
  else .decoded ⟨tag, afterEquals.take delimiter⟩ (equals + 1 + delimiter + 1)

/-- The tag in front of the next '=', and whether the dictionary marks it as
data; nothing while there is no '='. -/
def readTag (dictionary : OrchestrationFieldCollection) (rest : Bytes) :
    Option (Except Exception (Int32 × Bool)) :=
  let equals := rest.idxOf valueSeparator
  if equals = rest.length then none
  else
    match fromChars (rest.take equals) with
    | none => some (.error ⟨.outOfRange,
        rest.take equals ++ ascii " is not a valid field tag"⟩)
    | some tag =>
        match dictionary.get tag with
        | .error exception => some (.error exception)
        | .ok definition => some (.ok (tag, definition.isData))

/-- One iteration of the loop of `message::decode`.  `seen` is the part of the
buffer in front of `current`, `rest` the part from `current` on. -/
def nextField (dictionary : OrchestrationFieldCollection)
    (fields : FieldCollection) (seen rest : Bytes) : FieldOutcome :=
  match readTag dictionary rest with
  | none => .wait
  | some (.error exception) => .fault (.thrown exception)
  | some (.ok (tag, true)) =>
      dataField fields seen rest (rest.idxOf valueSeparator) tag
  | some (.ok (tag, false)) =>
      textField rest (rest.idxOf valueSeparator) tag

/-- The variables of the loop: `m_fields`, `current` and `checksum_current`. -/
structure Cursor where
  fields : FieldCollection
  current : Nat
  checksumCurrent : Nat
deriving DecidableEq, Repr

/-- The loop of `message::decode`; the result says whether the message is
complete.  Every field is at least two bytes long, so the length of the buffer
is enough fuel. -/
def loop (dictionary : OrchestrationFieldCollection) (buffer : Bytes) :
    Nat → Cursor → Except Fault Bool × Cursor
  | 0, cursor => (.ok false, cursor)
  | fuel + 1, cursor =>
      if cursor.current = buffer.length then (.ok false, cursor)
      else
        match nextField dictionary cursor.fields (buffer.take cursor.current)
            (buffer.drop cursor.current) with
        | .wait => (.ok false, cursor)
        | .fault fault => (.error fault, cursor)
        | .decoded field size =>
            let stored : Cursor :=
              { cursor with
                fields := cursor.fields ++ [field]
                current := cursor.current + size }
            if field.tag = Tag.CheckSum then (.ok true, stored)
            else loop dictionary buffer fuel
              { stored with checksumCurrent := stored.current }

end Decode

structure DecodeResult where
  consumed : Nat
  complete : Bool
deriving DecidableEq, Repr

/-- `message::decode`.  When an exception leaves the loop, the fields stored so
far stay in the message and its checksum is not updated. -/
def Message.decode (dictionary : OrchestrationFieldCollection)
    (message : Message) (buffer : Bytes) :
    Except Decode.Fault DecodeResult × Message :=
  match Decode.loop dictionary buffer buffer.length ⟨message.fields, 0, 0⟩ with
  | (.error fault, cursor) =>
      (.error fault, { message with fields := cursor.fields })
  | (.ok complete, cursor) =>
      let checksum := Checksum.accumulate message.decodeChecksum
        (buffer.take cursor.checksumCurrent)
      (.ok ⟨cursor.current, complete⟩,
        { fields := cursor.fields
          decodeChecksum := if complete then checksum % 256 else checksum
          decodeChecksumValid := complete || message.decodeChecksumValid })

namespace Decode

/-! ### Size and stability of one field -/

/-- The field before the next one reads as a negative length. -/
def lastIsNegative (fields : FieldCollection) : Bool :=
  match fields.getLast? with
  | none => false
  | some previous =>
      match stoi previous.value with
      | .error _ => false
      | .ok length => length < 0

/-- The front of the buffer shows a data field, and the field before it reads
as a negative length. -/
def negativeLength (dictionary : OrchestrationFieldCollection)
    (fields : FieldCollection) (rest : Bytes) : Bool :=
  match readTag dictionary rest with
  | some (.ok (_, true)) => lastIsNegative fields
  | _ => false

theorem idxOf_append_of_found {byte : UInt8} {front : Bytes} (more : Bytes)
    (found : front.idxOf byte ≠ front.length) :
    (front ++ more).idxOf byte = front.idxOf byte ∧
      front.idxOf byte < front.length := by
  have within : front.idxOf byte < front.length :=
    Nat.lt_of_le_of_ne List.idxOf_le_length found
  exact ⟨List.idxOf_append_of_mem (List.idxOf_lt_length_iff.mp within), within⟩

theorem textField_size {rest : Bytes} {equals : Nat} {tag : Int32}
    {field : Field} {size : Nat}
    (decoded : textField rest equals tag = .decoded field size) :
    field.tag = tag ∧ 0 < size ∧ size ≤ rest.length := by
  unfold textField at decoded
  simp only at decoded
  split at decoded
  · contradiction
  · next found =>
      have within : (rest.drop (equals + 1)).idxOf fieldSeparator <
          (rest.drop (equals + 1)).length :=
        Nat.lt_of_le_of_ne List.idxOf_le_length found
      rw [List.length_drop] at within
      injection decoded with fieldEq sizeEq
      subst fieldEq sizeEq
      exact ⟨rfl, by omega, by omega⟩

theorem textField_append {rest : Bytes} {equals : Nat} {tag : Int32}
    {field : Field} {size : Nat} (more : Bytes)
    (within : equals < rest.length)
    (decoded : textField rest equals tag = .decoded field size) :
    textField (rest ++ more) equals tag = .decoded field size := by
  have dropped : (rest ++ more).drop (equals + 1) =
      rest.drop (equals + 1) ++ more :=
    List.drop_append_of_le_length within
  unfold textField at *
  rw [dropped]
  generalize rest.drop (equals + 1) = afterEquals at *
  simp only at *
  split at decoded
  · contradiction
  · next found =>
      obtain ⟨sameIndex, inside⟩ := idxOf_append_of_found more found
      rw [sameIndex, List.length_append, if_neg (by omega),
        List.take_append_of_le_length (by omega)]
      exact decoded

theorem textField_ne_fault (rest : Bytes) (equals : Nat) (tag : Int32)
    (fault : Fault) : textField rest equals tag ≠ .fault fault := by
  unfold textField
  simp only
  split <;> simp

def framedField (rest : Bytes) (equals : Nat) (tag : Int32) (length : Nat) :
    FieldOutcome :=
  match rest[equals + length + 1]? with
  | none => .wait
  | some byte =>
      if byte ≠ fieldSeparator then
        runtimeError (ascii "parsed a data field wtih tag=" ++
          decimalInt tag.toInt ++
          ascii " but the field did not have a trailing field separator")
      else
        .decoded ⟨tag, (rest.drop (equals + 1)).take length⟩ (equals + length + 2)

theorem dataField_eq_framedField {fields : FieldCollection} (seen rest : Bytes)
    (equals : Nat) (tag : Int32) {previous : Field} {length : Int32}
    (last : fields.getLast? = some previous)
    (numeric : stoi previous.value = .ok length) (nonneg : ¬ length < 0) :
    dataField fields seen rest equals tag =
      framedField rest equals tag length.toInt.toNat := by
  have sign : 0 ≤ length.toInt := by
    simpa [Int32.lt_iff_toInt_lt] using nonneg
  have position : ((equals : Int) + length.toInt + 1).toNat =
      equals + length.toInt.toNat + 1 := by omega
  have front : 0 ≤ (equals : Int) + length.toInt + 1 := by omega
  simp only [dataField, framedField, last, numeric, byteAt, if_pos front,
    position, if_neg nonneg]
  by_cases beyond : (rest.length : Int) ≤ equals + length.toInt + 1
  · have outside : rest.length ≤ equals + length.toInt.toNat + 1 := by omega
    rw [if_pos beyond, List.getElem?_eq_none outside]
  · have inside : equals + length.toInt.toNat + 1 < rest.length := by omega
    rw [if_neg beyond, List.getElem?_eq_getElem inside]

/-- A negative length never gets a field stored: the separator test fails, the
value cannot be constructed, or the test already reads outside the buffer. -/
theorem dataField_of_neg {fields : FieldCollection} (seen rest : Bytes)
    {equals : Nat} (tag : Int32) {previous : Field} {length : Int32}
    (last : fields.getLast? = some previous)
    (numeric : stoi previous.value = .ok length) (neg : length < 0)
    (within : equals < rest.length) :
    ∃ fault, dataField fields seen rest equals tag = .fault fault := by
  have sign : length.toInt < 0 := by
    simpa [Int32.lt_iff_toInt_lt] using neg
  have inside : ¬ (rest.length : Int) ≤ equals + length.toInt + 1 := by omega
  simp only [dataField, last, numeric, if_neg inside, if_pos neg]
  cases byteAt seen rest (equals + length.toInt + 1) with
  | none => exact ⟨_, rfl⟩
  | some byte =>
      by_cases separator : byte ≠ fieldSeparator
      · exact ⟨_, if_pos separator⟩
      · exact ⟨_, if_neg separator⟩

/-- Without a negative length the bytes in front of a data field play no part:
either it is rejected whatever follows, or it is framed by a length. -/
theorem dataField_cases {fields : FieldCollection}
    (nonnegative : lastIsNegative fields = false) (tag : Int32) :
    (∃ text, ∀ seen rest equals,
        dataField fields seen rest equals tag = runtimeError text) ∨
      ∃ length, ∀ seen rest equals,
        dataField fields seen rest equals tag =
          framedField rest equals tag length := by
  cases last : fields.getLast? with
  | none =>
      exact .inl ⟨noLengthField tag, fun seen rest equals => by
        simp only [dataField, last]⟩
  | some previous =>
      cases numeric : stoi previous.value with
      | error exception =>
          exact .inl ⟨invalidLengthField tag, fun seen rest equals => by
            simp only [dataField, last, numeric]⟩
      | ok length =>
          have nonneg : ¬ length < 0 := by
            simpa [lastIsNegative, last, numeric] using nonnegative
          exact .inr ⟨_, fun seen rest equals =>
            dataField_eq_framedField seen rest equals tag last numeric nonneg⟩

theorem framedField_size {rest : Bytes} {equals length : Nat} {tag : Int32}
    {field : Field} {size : Nat}
    (decoded : framedField rest equals tag length = .decoded field size) :
    field.tag = tag ∧ 0 < size ∧ size ≤ rest.length := by
  unfold framedField at decoded
  cases separator : rest[equals + length + 1]? with
  | none => simp [separator] at decoded
  | some byte =>
      have inside : equals + length + 1 < rest.length :=
        (List.getElem?_eq_some_iff.mp separator).1
      simp only [separator] at decoded
      split at decoded
      · contradiction
      · injection decoded with fieldEq sizeEq
        subst fieldEq sizeEq
        exact ⟨rfl, by omega, by omega⟩

theorem framedField_append {rest : Bytes} {equals length : Nat} {tag : Int32}
    (more : Bytes) (arrived : framedField rest equals tag length ≠ .wait) :
    framedField (rest ++ more) equals tag length =
      framedField rest equals tag length := by
  unfold framedField at *
  cases separator : rest[equals + length + 1]? with
  | none => simp [separator] at arrived
  | some byte =>
      have inside : equals + length + 1 < rest.length :=
        (List.getElem?_eq_some_iff.mp separator).1
      have dropped : ((rest ++ more).drop (equals + 1)).take length =
          (rest.drop (equals + 1)).take length := by
        rw [List.drop_append_of_le_length (by omega),
          List.take_append_of_le_length (by rw [List.length_drop]; omega)]
      rw [List.getElem?_append_left inside, separator]
      simp only [dropped]

theorem readTag_within {dictionary : OrchestrationFieldCollection}
    {rest : Bytes} {result : Except Exception (Int32 × Bool)}
    (read : readTag dictionary rest = some result) :
    rest.idxOf valueSeparator < rest.length := by
  unfold readTag at read
  simp only at read
  split at read
  · contradiction
  · next found => exact Nat.lt_of_le_of_ne List.idxOf_le_length found

theorem readTag_append {dictionary : OrchestrationFieldCollection}
    {rest : Bytes} {result : Except Exception (Int32 × Bool)} (more : Bytes)
    (read : readTag dictionary rest = some result) :
    readTag dictionary (rest ++ more) = some result := by
  have within := readTag_within read
  obtain ⟨sameIndex, -⟩ := idxOf_append_of_found more (Nat.ne_of_lt within)
  unfold readTag at read ⊢
  simp only [sameIndex, List.length_append,
    List.take_append_of_le_length (Nat.le_of_lt within)]
  rw [if_neg (by omega)]
  simpa only [if_neg (Nat.ne_of_lt within)] using read

theorem idxOf_append_of_readTag {dictionary : OrchestrationFieldCollection}
    {rest : Bytes} {result : Except Exception (Int32 × Bool)} (more : Bytes)
    (read : readTag dictionary rest = some result) :
    (rest ++ more).idxOf valueSeparator = rest.idxOf valueSeparator :=
  (idxOf_append_of_found more (Nat.ne_of_lt (readTag_within read))).1

theorem negativeLength_append {dictionary : OrchestrationFieldCollection}
    {fields : FieldCollection} {rest : Bytes} (more : Bytes)
    (negative : negativeLength dictionary fields rest = true) :
    negativeLength dictionary fields (rest ++ more) = true := by
  cases read : readTag dictionary rest with
  | none => simp [negativeLength, read] at negative
  | some result =>
      unfold negativeLength at *
      rw [readTag_append more read]
      rwa [read] at negative

end Decode

end Crocofix
