/-
A FIX message: its fields, the checksum that decoding accumulates, and the
accessors of its header fields.

An accessor throws when the field is missing, and the sequence number also
when it is not numeric.
-/

import Crocofix.FieldCollection

namespace Crocofix

open Numeral

structure EncodeOptions where
  setChecksum : Bool
  setBodyLength : Bool
  setBeginString : Bool
  setMsgSeqNum : Bool
deriving DecidableEq, Repr

namespace EncodeOptions

def none : EncodeOptions := ⟨false, false, false, false⟩

def standard : EncodeOptions := ⟨true, true, true, true⟩

end EncodeOptions

structure Message where
  fields : FieldCollection
  decodeChecksum : UInt32
  decodeChecksumValid : Bool
deriving DecidableEq, Repr

namespace Message

/-- `message()` and `message::reset`. -/
def empty : Message := ⟨[], 0, false⟩

/-- The fields that `populate_header` puts in front, without values. -/
def header : FieldCollection :=
  [⟨Tag.BeginString, []⟩, ⟨Tag.BodyLength, []⟩, ⟨Tag.MsgType, []⟩,
    ⟨Tag.SenderCompID, []⟩, ⟨Tag.TargetCompID, []⟩, ⟨Tag.MsgSeqNum, []⟩,
    ⟨Tag.SendingTime, []⟩]

def make (populateHeader : Bool) (fields : List Field) : Message :=
  { empty with
    fields := fields.foldl FieldCollection.putOrAppend
      (if populateHeader then header else []) }

/-! ### Accessors -/

/-- The shape shared by the accessors of mandatory header fields. -/
def requireField (message : Message) (tag : Int32) (name : String) :
    Except Exception Bytes :=
  match message.fields.tryGet tag with
  | none => .error ⟨.runtimeError,
      ascii "message does not have a " ++ ascii name ++ ascii " field"⟩
  | some field => .ok field.value

theorem requireField_eq_ok_iff (message : Message) (tag : Int32) (name : String)
    (value : Bytes) :
    message.requireField tag name = .ok value ↔
      ∃ field, message.fields.tryGet tag = some field ∧ field.value = value := by
  unfold requireField
  cases message.fields.tryGet tag with
  | none => simp
  | some field => simp

def BeginString (message : Message) : Except Exception Bytes :=
  message.requireField Tag.BeginString "BeginString"

def SenderCompID (message : Message) : Except Exception Bytes :=
  message.requireField Tag.SenderCompID "SenderCompID"

def TargetCompID (message : Message) : Except Exception Bytes :=
  message.requireField Tag.TargetCompID "TargetCompID"

def MsgType (message : Message) : Except Exception Bytes :=
  message.requireField Tag.MsgType "MsgType"

/-- The numeral is read as an `int` and converted to `uint32_t`. -/
def MsgSeqNum (message : Message) : Except Exception UInt32 := do
  let value ← message.requireField Tag.MsgSeqNum "MsgSeqNum"
  let number ← stoi value
  pure number.toUInt32

def PossDupFlag (message : Message) : Except Exception Bool :=
  message.fields.getBool Tag.PossDupFlag

def GapFillFlag (message : Message) : Except Exception Bool :=
  message.fields.getBool Tag.GapFillFlag

def ResetSeqNumFlag (message : Message) : Except Exception Bool :=
  message.fields.getBool Tag.ResetSeqNumFlag

def adminTypes : List Bytes :=
  [Crocofix.MsgType.Logon, Crocofix.MsgType.Heartbeat,
    Crocofix.MsgType.TestRequest, Crocofix.MsgType.ResendRequest,
    Crocofix.MsgType.Reject, Crocofix.MsgType.SequenceReset,
    Crocofix.MsgType.Logout, Crocofix.MsgType.XMLnonFIX]

def isAdmin (message : Message) : Except Exception Bool := do
  let type ← message.MsgType
  pure (adminTypes.contains type)

def IsApplication (message : Message) : Prop := message.isAdmin = .ok false

instance (message : Message) : Decidable message.IsApplication :=
  inferInstanceAs (Decidable (_ = _))

/-! ### Body length -/

/-- The loop of `calculate_body_length`: nothing counts up to and including
the BodyLength field, and the CheckSum field ends the count. -/
def bodyLengthLoop : Bool → UInt32 → FieldCollection → UInt32
  | _, length, [] => length
  | passedBodyLength, length, field :: rest =>
      if field.tag = Tag.CheckSum then length
      else if !passedBodyLength then
        bodyLengthLoop (field.tag = Tag.BodyLength) length rest
      else
        bodyLengthLoop true
          (length + numberOfDigits field.tag +
            UInt32.ofNat field.value.length + 2) rest

def calculateBodyLength (message : Message) : UInt32 :=
  bodyLengthLoop false 0 message.fields

theorem bodyLengthLoop_rewriteTo_checkSum (value : Bytes) (passed : Bool)
    (length : UInt32) (fields : FieldCollection) :
    bodyLengthLoop passed length
        (fields.map (FieldCollection.rewriteTo ⟨Tag.CheckSum, value⟩)) =
      bodyLengthLoop passed length fields := by
  induction fields generalizing passed length with
  | nil => rfl
  | cons field rest ih =>
      simp only [List.map_cons, bodyLengthLoop, FieldCollection.rewriteTo_tag]
      by_cases ends : field.tag = Tag.CheckSum
      · rw [if_pos ends, if_pos ends]
      · have unchanged :
            FieldCollection.rewriteTo ⟨Tag.CheckSum, value⟩ field = field :=
          if_neg ends
        rw [if_neg ends, if_neg ends, unchanged, ih, ih]

theorem bodyLengthLoop_put_checkSum (value : Bytes) (passed : Bool)
    (length : UInt32) (fields : FieldCollection) :
    bodyLengthLoop passed length (fields.put ⟨Tag.CheckSum, value⟩) =
      bodyLengthLoop passed length fields := by
  induction fields generalizing passed length with
  | nil => rfl
  | cons field rest ih =>
      rw [FieldCollection.put_cons]
      by_cases ends : field.tag = Tag.CheckSum
      · rw [if_pos ends, bodyLengthLoop, bodyLengthLoop, if_pos rfl, if_pos ends]
      · rw [if_neg ends, bodyLengthLoop, bodyLengthLoop, if_neg ends, if_neg ends, ih, ih]

theorem bodyLengthLoop_put_bodyLength (value : Bytes) (length : UInt32)
    (fields : FieldCollection) :
    bodyLengthLoop false length (fields.put ⟨Tag.BodyLength, value⟩) =
      bodyLengthLoop false length fields := by
  induction fields with
  | nil => rfl
  | cons field rest ih =>
      rw [FieldCollection.put_cons]
      by_cases here : field.tag = Tag.BodyLength
      · rw [if_pos here, bodyLengthLoop, bodyLengthLoop, here]
        rfl
      · rw [if_neg here, bodyLengthLoop, bodyLengthLoop, decide_eq_false here, ih]
        rfl

def calculateChecksum (message : Message) : Except Exception UInt32 :=
  if message.decodeChecksumValid then .ok message.decodeChecksum
  else .error ⟨.runtimeError, ascii "NO DECODE CHECKSUM"⟩

end Message

end Crocofix
