/-
The messages that a session sends.

`send` allocates the sequence number before it hands the message to the writer,
and a Logon that resets the sequence numbers restarts both counters first.
-/

import Crocofix.Session.Record

namespace Crocofix

open Numeral

def Message.isResetLogon (message : Message) : Except Exception Bool := do
  let msgType ← message.MsgType
  if msgType = MsgType.Logon then message.ResetSeqNumFlag else pure false

namespace Session

def addressed (session : Session) (options : EncodeOptions)
    (fields : FieldCollection) : FieldCollection :=
  let begun :=
    if options.setBeginString then
      fields.put ⟨Tag.BeginString, session.options.beginString⟩
    else fields
  (begun.put ⟨Tag.SenderCompID, session.options.senderCompID⟩).put
    ⟨Tag.TargetCompID, session.options.targetCompID⟩

/-- The fields that `send` sets after the sequence number.  The encoder gives
the CheckSum its value. -/
def stamped (timestamp : Bytes) (options : EncodeOptions)
    (fields : FieldCollection) : FieldCollection :=
  let timed := fields.put ⟨Tag.SendingTime, timestamp⟩
  if options.setChecksum then timed.putOrAppend ⟨Tag.CheckSum, []⟩ else timed

theorem tryGet_addressed (session : Session) (options : EncodeOptions)
    (fields : FieldCollection) {tag : Int32} (notBegin : Tag.BeginString ≠ tag)
    (notSender : Tag.SenderCompID ≠ tag) (notTarget : Tag.TargetCompID ≠ tag) :
    (session.addressed options fields).tryGet tag = fields.tryGet tag := by
  unfold addressed
  rw [FieldCollection.tryGet_put, if_neg notTarget, FieldCollection.tryGet_put,
    if_neg notSender]
  split
  · rw [FieldCollection.tryGet_put, if_neg notBegin]
  · rfl

theorem tryGet_stamped (timestamp : Bytes) (options : EncodeOptions)
    (fields : FieldCollection) {tag : Int32} (notTime : Tag.SendingTime ≠ tag)
    (notChecksum : Tag.CheckSum ≠ tag) :
    (stamped timestamp options fields).tryGet tag = fields.tryGet tag := by
  unfold stamped
  split
  · rw [FieldCollection.tryGet_putOrAppend, if_neg notChecksum,
      FieldCollection.tryGet_put, if_neg notTime]
  · rw [FieldCollection.tryGet_put, if_neg notTime]

/-- A message without a MsgSeqNum field stays without one, although a number is
allocated for it. -/
def number (options : EncodeOptions) (fields : FieldCollection) :
    Action FieldCollection :=
  if options.setMsgSeqNum then do
    let number ← allocateOutgoingMsgSeqNum
    pure (fields.put (Field.ofUInt32 Tag.MsgSeqNum number))
  else pure fields

def handOver (environment : Environment) (message : Message)
    (options : EncodeOptions) (fields : FieldCollection) : Action Unit := do
  let session ← Call.get
  let timestamp :=
    environment.timestampString session.options.timestampFormat session
  let sent ← environment.write
    { message with fields := stamped timestamp options fields } options
  record (.messageSent sent)

def send (environment : Environment) (message : Message)
    (options : EncodeOptions) : Action Unit := do
  let resets ← Call.ofExcept message.isResetLogon
  Call.onlyIf resets restartSeqNums
  let session ← Call.get
  let numbered ← number options (session.addressed options message.fields)
  handOver environment message options numbered

variable (environment : Environment)

def sendLogon (resetSeqNumFlag : Bool) : Action Unit := do
  let session ← Call.get
  let logon := Message.make true
    [⟨Tag.MsgType, MsgType.Logon⟩, ⟨Tag.EncryptMethod, EncryptMethod.None⟩,
      .ofUInt32 Tag.HeartBtInt session.options.heartbeatInterval]
  let flagged :=
    if resetSeqNumFlag then
      logon.fields.putOrAppend (.ofBool Tag.ResetSeqNumFlag resetSeqNumFlag)
    else logon.fields
  let expecting :=
    if session.options.useNextExpectedMsgSeqNum then
      flagged.putOrAppend
        (.ofUInt32 Tag.NextExpectedMsgSeqNum session.incomingMsgSeqNum)
    else flagged
  send environment { logon with fields := expecting } .standard

def sendLogout (text : Bytes) : Action Unit := do
  send environment
    (Message.make true [⟨Tag.MsgType, MsgType.Logout⟩, ⟨Tag.Text, text⟩])
    .standard
  let session ← Call.get
  Call.onlyIf (session.state = .loggedOn) do
    stopDefibrillator
    setState .connected
  close

/-- The rejection names the sequence number of the message that it refers to,
and carries the reason where the dictionary knows the field. -/
def sendReject (message : Message) (text : Bytes) (reason : Option Bytes) :
    Action Unit := do
  let refSeqNum ← Call.ofExcept message.MsgSeqNum
  let reject := Message.make true
    [⟨Tag.MsgType, MsgType.Reject⟩, .ofUInt32 Tag.RefSeqNum refSeqNum,
      ⟨Tag.Text, text⟩]
  match reason with
  | none => send environment reject .standard
  | some value => do
      let defined ← Call.ofExcept
        (environment.orchestration.isFieldDefined Tag.SessionRejectReason)
      if defined then
        send environment
          { reject with
            fields := reject.fields.putOrAppend ⟨Tag.SessionRejectReason, value⟩ }
          .standard
      else send environment reject .standard

def sendTestRequest : Action Unit := do
  let id ← allocateTestRequestId
  Call.modify fun session => { session with expectedTestRequestId := some id }
  send environment
    (Message.make true
      [⟨Tag.MsgType, MsgType.TestRequest⟩, .ofUInt32 Tag.TestReqID id])
    .standard

def sendPostLogonTestRequest : Action Unit := do
  let session ← Call.get
  if session.options.testRequestDelay ≠ 0 then
    let token := environment.cancellationToken session
    record (.scheduledRelative session.options.testRequestDelay token)
    Call.modify fun session => { session with testRequestTimerToken := some token }
  else sendTestRequest environment

/-- The gap fill carries the number that it was asked for, so `send` is told
not to number it. -/
def sendGapFill (msgSeqNum newSeqNo : UInt32) : Action Unit :=
  send environment
    (Message.make true
      [⟨Tag.MsgType, MsgType.SequenceReset⟩, .ofUInt32 Tag.MsgSeqNum msgSeqNum,
        .ofBool Tag.GapFillFlag true, .ofBool Tag.PossDupFlag true,
        .ofUInt32 Tag.NewSeqNo newSeqNo])
    { EncodeOptions.standard with setMsgSeqNum := false }

/-- The end of the requested range is not used. -/
def performResend (beginMsgSeqNum _endMsgSeqNum : UInt32) : Action Unit := do
  let session ← Call.get
  sendGapFill environment beginMsgSeqNum session.outgoingMsgSeqNum

def requestResend (receivedMsgSeqNum : UInt32) : Action Unit := do
  let session ← Call.get
  record (.information
    (ascii "Recoverable message sequence error, expected " ++
      decimal session.incomingMsgSeqNum.toNat ++ ascii " received " ++
      decimal receivedMsgSeqNum.toNat ++ ascii " - initiating recovery"))
  setState .resending
  Call.modify fun session =>
    { session with
      incomingResentMsgSeqNum := session.incomingMsgSeqNum
      incomingTargetMsgSeqNum := receivedMsgSeqNum }
  record (.information
    (ascii "Requesting resend, BeginSeqNo " ++
      decimal session.incomingMsgSeqNum.toNat ++ ascii " EndSeqNo " ++
      decimal receivedMsgSeqNum.toNat))
  send environment
    (Message.make true
      [⟨Tag.MsgType, MsgType.ResendRequest⟩,
        .ofUInt32 Tag.BeginSeqNo session.incomingMsgSeqNum,
        .ofUInt32 Tag.EndSeqNo receivedMsgSeqNum])
    .standard

def logon : Action Unit := do
  let session ← Call.get
  if session.state ≠ .connected then
    Call.raise ⟨.logicError,
      ascii "logon cannot be initiated in the current state " ++
        session.state.name⟩
  else
    setState .loggingOn
    if session.options.logonBehaviour = .initiator then
      sendLogon environment false

def «open» : Action Unit := do
  record .readerOpened
  logon environment

def defibrillate : Action Unit := do
  let session ← Call.get
  if session.state = .loggedOn then
    send environment
      (Message.make true [⟨Tag.MsgType, MsgType.Heartbeat⟩]) .standard

def reset : Action Unit := do
  stopDefibrillator
  restartSeqNums

end Session

end Crocofix
