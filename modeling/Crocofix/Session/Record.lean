/-
The data of a session, and the parts outside it that its calls use.

Everything a session does to the outside, such as a signal, a write or a timer,
is recorded in its history, the latest event first.
-/

import Crocofix.Dictionary
import Crocofix.Message
import Crocofix.Library.Call

namespace Crocofix

open Numeral

inductive Behaviour
  | initiator
  | acceptor
deriving DecidableEq, Repr

inductive SessionState
  | disconnected
  | connected
  | loggingOn
  | resending
  | loggedOn
  | resetting
deriving DecidableEq, Repr

def SessionState.name : SessionState → Bytes
  | .connected => ascii "connected"
  | .loggingOn => ascii "loggin_on"
  | .resending => ascii "resending"
  | .loggedOn => ascii "logged_on"
  | .resetting => ascii "resetting"
  | .disconnected => ascii "unknown"

inductive TimestampFormat
  | seconds
  | milliseconds
deriving DecidableEq, Repr

structure SessionOptions where
  logonBehaviour : Behaviour
  beginString : Bytes
  senderCompID : Bytes
  targetCompID : Bytes
  heartbeatInterval : UInt32
  testRequestDelay : UInt32
  timestampFormat : TimestampFormat
  useNextExpectedMsgSeqNum : Bool
deriving DecidableEq, Repr

/-- The last three events are no output: they mark where the outgoing number is
assigned, where a message is dropped because its number is too high, and where
a received message is about to move the incoming number. -/
inductive Event
  | error (text : Bytes)
  | warning (text : Bytes)
  | information (text : Bytes)
  | stateChanged (previous state : SessionState)
  | messageReceived (message : Message)
  | messageSent (message : Message)
  | written (message : Message) (options : EncodeOptions)
  | refused (message : Message) (options : EncodeOptions) (exception : Exception)
  | readerOpened
  | readerClosed
  | writerClosed
  | scheduledRelative (milliseconds : UInt32) (token : UInt64)
  | scheduledRepeating (milliseconds : UInt32) (token : UInt64)
  | cancelled (token : UInt64)
  | outgoingSet (number : UInt32)
  | discarded (received expected : UInt32)
  | accepted (message : Message)
deriving DecidableEq, Repr

structure Session where
  options : SessionOptions
  state : SessionState
  logonReceived : Bool
  expectedTestRequestId : Option UInt32
  nextTestRequestId : UInt32
  incomingMsgSeqNum : UInt32
  outgoingMsgSeqNum : UInt32
  incomingResentMsgSeqNum : UInt32
  incomingTargetMsgSeqNum : UInt32
  testRequestTimerToken : Option UInt64
  heartbeatTimerToken : Option UInt64
  history : List Event
deriving DecidableEq, Repr

/-- What the session is constructed with.  A write returns the message as the
encoder leaves it; it may throw, and it may call the session again before it
returns. -/
structure Environment where
  write : Message → EncodeOptions → Call Exception Session Message
  timestampString : TimestampFormat → Session → Bytes
  cancellationToken : Session → UInt64
  orchestration : OrchestrationFieldCollection

namespace Session

/-- A session with the given options, its counters set before it is opened. -/
def create (options : SessionOptions) (incoming outgoing : UInt32) : Session where
  options
  state := .connected
  logonReceived := false
  expectedTestRequestId := none
  nextTestRequestId := 0
  incomingMsgSeqNum := incoming
  outgoingMsgSeqNum := outgoing
  incomingResentMsgSeqNum := 0
  incomingTargetMsgSeqNum := 0
  testRequestTimerToken := none
  heartbeatTimerToken := none
  history := []

def initiatorOptions : SessionOptions where
  logonBehaviour := .initiator
  beginString := ascii "FIX.4.4"
  senderCompID := ascii "I"
  targetCompID := ascii "A"
  heartbeatInterval := 30
  testRequestDelay := 1000
  timestampFormat := .milliseconds
  useNextExpectedMsgSeqNum := false

abbrev Action (α : Type) : Type := Call Exception Session α

/-! ### Assignments -/

def record (event : Event) : Action Unit :=
  Call.modify fun session => { session with history := event :: session.history }

@[simp] theorem record_apply (event : Event) (session : Session) :
    record event session =
      (.ok (), { session with history := event :: session.history }) := rfl

@[simp] theorem record_bind {α : Type} (event : Event) (next : Unit → Action α)
    (session : Session) :
    (record event >>= next) session =
      next () { session with history := event :: session.history } := rfl

def setState (state : SessionState) : Action Unit := do
  let session ← Call.get
  if session.state = state then pure ()
  else
    Call.modify fun session => { session with state }
    record (.stateChanged session.state state)

theorem setState_of_eq {session : Session} {state : SessionState}
    (same : session.state = state) : setState state session = (.ok (), session) := by
  unfold setState
  rw [Call.get_bind, if_pos same]
  rfl

theorem setState_of_ne {session : Session} {state : SessionState}
    (differs : session.state ≠ state) :
    setState state session =
      (.ok (), { session with
        state
        history := .stateChanged session.state state :: session.history }) := by
  unfold setState
  rw [Call.get_bind, if_neg differs]
  rfl

def setIncomingMsgSeqNum (number : UInt32) : Action Unit :=
  Call.modify fun session => { session with incomingMsgSeqNum := number }

def setOutgoingMsgSeqNum (number : UInt32) : Action Unit := do
  Call.modify fun session => { session with outgoingMsgSeqNum := number }
  record (.outgoingSet number)

def setHeartbeatInterval (interval : UInt32) : Action Unit :=
  Call.modify fun session =>
    { session with
      options := { session.options with heartbeatInterval := interval } }

def allocateTestRequestId : Action UInt32 := do
  let session ← Call.get
  Call.modify fun session =>
    { session with nextTestRequestId := session.nextTestRequestId + 1 }
  pure session.nextTestRequestId

def allocateOutgoingMsgSeqNum : Action UInt32 := do
  let session ← Call.get
  Call.modify fun session =>
    { session with outgoingMsgSeqNum := session.outgoingMsgSeqNum + 1 }
  pure session.outgoingMsgSeqNum

/-- The assignments with which `send` and `reset` restart the numbering. -/
def restartSeqNums : Action Unit := do
  setState .resetting
  setOutgoingMsgSeqNum 1
  setIncomingMsgSeqNum 1

/-! ### Timers -/

def stopDefibrillator : Action Unit := do
  let session ← Call.get
  match session.heartbeatTimerToken with
  | none => pure ()
  | some token =>
      record (.cancelled token)
      Call.modify fun session => { session with heartbeatTimerToken := none }

def startDefibrillator (environment : Environment) : Action Unit := do
  stopDefibrillator
  let session ← Call.get
  if session.options.heartbeatInterval = 0 then pure ()
  else
    let token := environment.cancellationToken session
    record (.scheduledRepeating (session.options.heartbeatInterval * 1000) token)
    Call.modify fun session => { session with heartbeatTimerToken := some token }

def stopTestRequestTimer : Action Unit := do
  let session ← Call.get
  match session.testRequestTimerToken with
  | none => pure ()
  | some token =>
      record (.cancelled token)
      Call.modify fun session => { session with testRequestTimerToken := none }

def close : Action Unit := do
  record .readerClosed
  record .writerClosed
  setState .disconnected

end Session

end Crocofix
