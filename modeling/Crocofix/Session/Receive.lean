/-
What a session does with a received message.

A message is validated, its sequence number is compared with the expected one,
and the message types of the session layer are processed.
-/

import Crocofix.Session.Send
import Crocofix.Checksum

namespace Crocofix

open Numeral

namespace Session

variable (environment : Environment)

/-! ### Validation -/

/-- The shape in which the validators refuse a message. -/
def rejectAndClose (message : Message) (text reason : Bytes) : Action Bool := do
  record (.error text)
  sendReject environment message text (some reason)
  close
  pure false

def validateChecksum (message : Message) : Action Bool :=
  match message.fields.tryGet Tag.CheckSum with
  | none =>
      rejectAndClose environment message
        (ascii "Received message without a CheckSum")
        SessionRejectReason.RequiredTagMissing
  | some received => do
      let checksum ← Call.ofExcept message.calculateChecksum
      let calculated ← Call.ofExcept (Checksum.formatChecksum checksum)
      if received.value ≠ calculated then
        rejectAndClose environment message
          (ascii "Received message with an invalid CheckSum, expected " ++
            calculated ++ ascii " received " ++ received.value)
          SessionRejectReason.ValueIsIncorrect
      else pure true

def validateBodyLength (message : Message) : Action Bool :=
  match message.fields.tryGet Tag.BodyLength with
  | none =>
      rejectAndClose environment message
        (ascii "Received message without a BodyLength")
        SessionRejectReason.RequiredTagMissing
  | some received =>
      let calculated := decimal message.calculateBodyLength.toNat
      if received.value ≠ calculated then
        rejectAndClose environment message
          (ascii "Received message with an invalid BodyLength, expected " ++
            calculated ++ ascii " received " ++ received.value)
          SessionRejectReason.ValueIsIncorrect
      else pure true

def validateBeginString (message : Message) : Action Bool := do
  let session ← Call.get
  let expected := session.options.beginString
  match message.fields.tryGet Tag.BeginString with
  | none =>
      rejectAndClose environment message
        (ascii "Received message without a BeginString")
        SessionRejectReason.RequiredTagMissing
  | some received =>
      if received.value ≠ expected then
        rejectAndClose environment message
          (ascii "Invalid BeginString, received " ++ received.value ++
            ascii " when expecting " ++ expected)
          SessionRejectReason.ValueIsIncorrect
      else pure true

/-- The check of `validate_comp_ids`, which it makes for either CompID. -/
def validateCompID (message : Message) (tag : Int32) (name : String)
    (expected : Bytes) : Action Bool :=
  let received := message.fields.tryGet tag
  if received.map Field.value ≠ some expected then
    rejectAndClose environment message
      (ascii "Received " ++ ascii name ++ ascii " '" ++
        (received.map Field.value).getD [] ++ ascii "' when expecting '" ++
          expected ++ ascii "'")
      SessionRejectReason.CompIDProblem
  else pure true

def validateCompIDs (message : Message) : Action Bool := do
  let session ← Call.get
  let target ← validateCompID environment message Tag.TargetCompID "TargetCompID"
    session.options.senderCompID
  if target then
    validateCompID environment message Tag.SenderCompID "SenderCompID"
      session.options.targetCompID
  else pure false

def validateFirstMessage (message : Message) : Action Bool := do
  let session ← Call.get
  if session.options.logonBehaviour = .initiator ∨ session.logonReceived then
    pure true
  else
    let msgType ← Call.ofExcept message.MsgType
    if msgType = MsgType.Logon ∨ msgType = MsgType.Reject ∨
        msgType = MsgType.Logout then
      pure true
    else
      let text := ascii "First message is not a Logon"
      record (.error text)
      sendReject environment message text (some SessionRejectReason.Other)
      sendLogout environment text
      pure false

/-! ### Sequence numbers -/

/-- While a recovery is in flight its target is extended instead of sending
another ResendRequest. -/
def recover (msgSeqNum : UInt32) (session : Session) : Action Unit :=
  if session.state = .resending then
    Call.modify fun session =>
      { session with
        incomingTargetMsgSeqNum := max session.incomingTargetMsgSeqNum msgSeqNum }
  else requestResend environment msgSeqNum

def sequenceNumberIsHigh (message : Message) : Action Bool := do
  let msgSeqNum ← Call.ofExcept message.MsgSeqNum
  let session ← Call.get
  if session.incomingMsgSeqNum < msgSeqNum then
    record (.discarded msgSeqNum session.incomingMsgSeqNum)
    recover environment msgSeqNum session
    pure true
  else pure false

def sequenceNumberIsLow (message : Message) : Action Bool := do
  let msgSeqNum ← Call.ofExcept message.MsgSeqNum
  let session ← Call.get
  if msgSeqNum < session.incomingMsgSeqNum then
    let text := ascii "MsgSeqNum too low, expecting " ++
      decimal session.incomingMsgSeqNum.toNat ++ ascii " but received " ++
      decimal msgSeqNum.toNat
    record (.error text)
    sendLogout environment text
    pure true
  else pure false

def validateSequenceNumbers (message : Message) : Action Bool := do
  let high ← sequenceNumberIsHigh environment message
  if high then pure false
  else
    let low ← sequenceNumberIsLow environment message
    pure !low

/-! ### Logon -/

def rejectAndLogout (logon : Message) (text reason : Bytes) : Action Bool := do
  record (.error text)
  sendReject environment logon text (some reason)
  sendLogout environment text
  pure false

def extractHeartbeatInterval (logon : Message) : Action Bool :=
  match logon.fields.tryGet Tag.HeartBtInt with
  | none =>
      rejectAndLogout environment logon
        (ascii "Logon message does not contain a HeartBtInt")
        SessionRejectReason.RequiredTagMissing
  | some heartBtInt =>
      match stoi heartBtInt.value with
      | .ok interval => do
          setHeartbeatInterval interval.toUInt32
          pure true
      | .error _ =>
          rejectAndLogout environment logon
            (heartBtInt.value ++ ascii " is not a valid numeric HeartBtInt")
            SessionRejectReason.ValueIsIncorrect

def logoutWithError (text : Bytes) : Action Bool := do
  record (.error text)
  sendLogout environment text
  pure false

/-- `process_logon` where `use_next_expected_msg_seq_num` is set: the sequence
number of the Logon itself is not compared with anything. -/
def processNextExpected (logon : Message) : Action Bool :=
  match logon.fields.tryGet Tag.NextExpectedMsgSeqNum with
  | none =>
      logoutWithError environment
        (ascii "Logon does not contain NextExpectedMsgSeqNum")
  | some field =>
      match stoi field.value with
      | .error _ =>
          logoutWithError environment (field.value ++
            ascii " is not a valid value for NextExpectedMsgSeqNum")
      | .ok parsed => do
          let nextExpected := parsed.toUInt32
          let session ← Call.get
          let comparison (problem : String) : Bytes :=
            ascii "NextExpectedMsgSeqNum too " ++ ascii problem ++
              ascii ", expecting " ++ decimal session.outgoingMsgSeqNum.toNat ++
              ascii " but received " ++ decimal nextExpected.toNat
          if session.outgoingMsgSeqNum < nextExpected then
            logoutWithError environment (comparison "high")
          else
            Call.onlyIf (nextExpected + 1 < session.outgoingMsgSeqNum) do
              record (.warning (comparison "low" ++ ascii " - performing resend"))
              setState .resending
              performResend environment nextExpected session.outgoingMsgSeqNum
            Call.onlyIf (session.options.logonBehaviour = .acceptor)
              (sendLogon environment false)
            sendPostLogonTestRequest environment
            pure true

/-- `process_logon` where the ResetSeqNumFlag is set. -/
def processResetLogon (logon : Message) : Action Bool := do
  let msgSeqNum ← Call.ofExcept logon.MsgSeqNum
  if msgSeqNum ≠ 1 then
    record (.error (ascii
      "Invalid logon message, the ResetSeqNumFlag is set and the MsgSeqNum is not 1"))
    pure false
  else
    let session ← Call.get
    if session.state = .resetting then
      sendTestRequest environment
      pure true
    else
      record (.information (ascii
        "Logon message received with ResetSeqNumFlag - resetting sequence numbers"))
      reset
      sendLogon environment true
      sendPostLogonTestRequest environment
      pure true

/-- The rest of `process_logon`. -/
def processPlainLogon (logon : Message) : Action Bool := do
  let low ← sequenceNumberIsLow environment logon
  if low then pure false
  else
    let session ← Call.get
    Call.onlyIf (session.options.logonBehaviour = .acceptor)
      (sendLogon environment false)
    let high ← sequenceNumberIsHigh environment logon
    if high then pure false
    else
      sendPostLogonTestRequest environment
      pure true

def processLogon (logon : Message) : Action Bool := do
  let resetSeqNumFlag ← Call.ofExcept logon.ResetSeqNumFlag
  let extracted ← extractHeartbeatInterval environment logon
  if extracted then
    Call.modify fun session => { session with logonReceived := true }
    let session ← Call.get
    if session.options.useNextExpectedMsgSeqNum then
      processNextExpected environment logon
    else if resetSeqNumFlag then processResetLogon environment logon
    else processPlainLogon environment logon
  else pure false

/-! ### The other message types of the session layer -/

def reject (message : Message) (text reason : Bytes) : Action Unit := do
  record (.error text)
  sendReject environment message text (some reason)

def processLogout : Action Unit := do
  record (.information (ascii "Closing session in response to Logout"))
  close

def processTestRequest (testRequest : Message) : Action Unit :=
  match testRequest.fields.tryGet Tag.TestReqID with
  | none => do
      let text := ascii "TestRequest does not contain a TestReqID"
      sendReject environment testRequest text
        (some SessionRejectReason.RequiredTagMissing)
      record (.error text)
  | some testReqID =>
      send environment
        (Message.make true
          [⟨Tag.MsgType, MsgType.Heartbeat⟩, ⟨Tag.TestReqID, testReqID.value⟩])
        .standard

def logOn : Action Unit := do
  setState .loggedOn
  startDefibrillator environment

def processHeartbeat (heartbeat : Message) : Action Unit := do
  let session ← Call.get
  if session.state = .loggingOn ∨ session.state = .resetting ∨
      session.state = .resending then
    match heartbeat.fields.tryGet Tag.TestReqID with
    | none => logOn environment
    | some testReqID =>
        match session.expectedTestRequestId with
        | none =>
            record (.warning
              (ascii "Received a Heartbeat with an unexpected TestReqID"))
        | some expected =>
            if testReqID.value ≠ decimal expected.toNat then
              record (.error (ascii
                "Received a Heartbeat with an incorrect TestReqID during Logon - disconnecting"))
              close
            else logOn environment

/-- The end of `process_sequence_reset`. -/
def completeResend : Action Unit := do
  let session ← Call.get
  if session.state = .resending ∧
      session.incomingTargetMsgSeqNum ≤ session.incomingResentMsgSeqNum then
    record (.information (ascii "Resend complete"))
    sendTestRequest environment
    startDefibrillator environment

def processGapFill (sequenceReset : Message) (newSeqNo : UInt32) :
    Action Unit := do
  let valid ← validateSequenceNumbers environment sequenceReset
  if valid then
    let session ← Call.get
    let performing :=
      if session.options.useNextExpectedMsgSeqNum then session.state = .loggingOn
      else session.state = .resending
    if performing then
      record (.information (ascii "SeqenceReset (GapFill) received, NewSeqNo = " ++
        decimal newSeqNo.toNat))
      Call.modify fun session =>
        { session with incomingResentMsgSeqNum := newSeqNo }
      setIncomingMsgSeqNum newSeqNo
      completeResend environment
    else
      reject environment sequenceReset
        (ascii "SequenceReset GapFill is not valid while not performing a resend")
        SessionRejectReason.Other

def processSequenceReset (sequenceReset : Message) : Action Unit :=
  match sequenceReset.fields.tryGet Tag.NewSeqNo with
  | none =>
      reject environment sequenceReset
        (ascii "SequenceReset does not contain a NewSeqNo field")
        SessionRejectReason.RequiredTagMissing
  | some field => do
      let gapFill ← Call.ofExcept sequenceReset.GapFillFlag
      match stoi field.value with
      | .error _ =>
          reject environment sequenceReset
            (field.value ++ ascii " is not a valid value for NewSeqNo")
            SessionRejectReason.ValueIsIncorrect
      | .ok parsed =>
          let newSeqNo := parsed.toUInt32
          let session ← Call.get
          if newSeqNo ≤ session.incomingMsgSeqNum then
            reject environment sequenceReset
              (ascii "NewSeqNo is not greater than expected MsgSeqNum = " ++
                decimal session.incomingMsgSeqNum.toNat)
              SessionRejectReason.ValueIsIncorrect
          else if gapFill then
            processGapFill environment sequenceReset newSeqNo
          else
            Call.modify fun session =>
              { session with incomingResentMsgSeqNum := newSeqNo }
            record (.information
              (ascii "SeqenceReset (Reset) received, NewSeqNo = " ++
                decimal newSeqNo.toNat))
            completeResend environment

/-- The old versions of the protocol write an open range as ending at 9999. -/
def endOfRange (beginString : Bytes) (endSeqNo : UInt32) : UInt32 :=
  if (beginString = ascii "FIX.4.0" ∨ beginString = ascii "FIX.4.1") ∧
      endSeqNo = 9999 then 0
  else endSeqNo

def processResendRequest (resendRequest : Message) : Action Unit := do
  stopTestRequestTimer
  match resendRequest.fields.tryGet Tag.BeginSeqNo with
  | none =>
      reject environment resendRequest
        (ascii "ResendRequest does not contain a BeginSeqNo field")
        SessionRejectReason.RequiredTagMissing
  | some beginSeqNo =>
      match resendRequest.fields.tryGet Tag.EndSeqNo with
      | none =>
          reject environment resendRequest
            (ascii "ResendRequest does not contain a EndSeqNo field")
            SessionRejectReason.RequiredTagMissing
      | some endSeqNo => do
          let first ← Call.ofExcept (stoi beginSeqNo.value)
          let last ← Call.ofExcept (stoi endSeqNo.value)
          record (.information
            (ascii "Performing resend from BeginSeqNo = " ++
              decimal first.toUInt32.toNat ++ ascii " to EndSeqNo " ++
              decimal last.toUInt32.toNat))
          let session ← Call.get
          performResend environment first.toUInt32
            (endOfRange session.options.beginString last.toUInt32)
          sendPostLogonTestRequest environment

/-! ### The message handler -/

/-- The validators that come before anything else, in the order of the source. -/
def validate (message : Message) : Action Bool := do
  if ← validateChecksum environment message then
    if ← validateBodyLength environment message then
      if ← validateBeginString environment message then
        if ← validateCompIDs environment message then
          validateFirstMessage environment message
        else pure false
      else pure false
    else pure false
  else pure false

def dispatch (msgType : Bytes) (message : Message) : Action Unit :=
  if msgType = MsgType.Heartbeat then processHeartbeat environment message
  else if msgType = MsgType.TestRequest then
    processTestRequest environment message
  else if msgType = MsgType.ResendRequest then
    processResendRequest environment message
  else if msgType = MsgType.Logout then processLogout
  else pure ()

/-- A Logon is compared with the expected number while it is processed. -/
def checkNumber (msgType : Bytes) (message : Message) : Action Bool :=
  if msgType = MsgType.Logon then processLogon environment message
  else validateSequenceNumbers environment message

/-- What `on_message_read` does with a message that is neither invalid nor a
SequenceReset nor a repeated message of the session layer. -/
def processNumbered (msgType : Bytes) (message : Message) : Action Unit := do
  let proceeds ← checkNumber environment msgType message
  if proceeds then
    let msgSeqNum ← Call.ofExcept message.MsgSeqNum
    record (.accepted message)
    setIncomingMsgSeqNum (msgSeqNum + 1)
    dispatch environment msgType message

def onMessageRead (message : Message) : Action Unit := do
  record (.messageReceived message)
  if ← validate environment message then
    let msgType ← Call.ofExcept message.MsgType
    let possDupFlag ← Call.ofExcept message.PossDupFlag
    if msgType = MsgType.SequenceReset then
      processSequenceReset environment message
    else
      let admin ← Call.ofExcept message.isAdmin
      if possDupFlag ∧ admin then
        record (.warning
          (ascii "Ignoring PossDup Admin message with MsgType=" ++ msgType))
      else processNumbered environment msgType message

/-! ### Inputs -/

/-- What happens to a session: its public calls, the messages that its reader
reads, the callbacks of its timers, and the closing of its reader or writer. -/
inductive Input
  | «open»
  | close
  | received (message : Message)
  | heartbeatTimer
  | testRequestTimer
  | send (message : Message) (options : EncodeOptions)
  | closed
deriving DecidableEq, Repr

def step : Input → Action Unit
  | .open => «open» environment
  | .close => close
  | .received message => onMessageRead environment message
  | .heartbeatTimer => defibrillate environment
  | .testRequestTimer => do
      Call.modify fun session => { session with testRequestTimerToken := none }
      sendTestRequest environment
  | .send message options => send environment message options
  | .closed => setState .disconnected

end Session

end Crocofix
