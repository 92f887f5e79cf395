/-
A session as the session at the other end of its channels sees it.

Packets stand for messages, and of the session only that is left which decides
what it sends.  Nothing is said about a session that throws, that ends the
connection, or that delays its TestRequest.
-/

import Crocofix.Library.Reaction
import Crocofix.Session.Record

namespace Crocofix

/-- What a message says beyond its header. -/
inductive Payload
  | logon (resets : Bool) (heartBtInt : UInt32) (nextExpected : Option Nat)
  | heartbeat (testReqID : Option UInt32)
  | testRequest (testReqID : UInt32)
  | resendRequest (beginSeqNo endSeqNo : Nat)
  | gapFill (newSeqNo : Nat)
  | reject
  | application
deriving DecidableEq, Repr

/-- The values below 2^31 are those that are read back from the wire. -/
def fitsWire (value : Nat) : Bool := value < 2147483648

namespace Payload

def resets : Payload → Bool
  | .logon resets _ _ => resets
  | _ => false

def isLogon : Payload → Bool
  | .logon _ _ _ => true
  | _ => false

def isGapFill : Payload → Bool
  | .gapFill _ => true
  | _ => false

def readable : Payload → Bool
  | .logon _ heartBtInt nextExpected =>
      fitsWire heartBtInt.toNat && nextExpected.all fitsWire
  | .resendRequest beginSeqNo endSeqNo => fitsWire beginSeqNo && fitsWire endSeqNo
  | .gapFill newSeqNo => fitsWire newSeqNo
  | _ => true

end Payload

structure Packet where
  number : Nat
  payload : Payload
deriving DecidableEq, Repr

def Packet.readable (packet : Packet) : Bool :=
  fitsWire packet.number && packet.payload.readable

structure Peer where
  options : SessionOptions
  state : SessionState
  logonReceived : Bool
  expectedTestRequestId : Option UInt32
  nextTestRequestId : UInt32
  incoming : Nat
  outgoing : Nat
  resent : Nat
  target : Nat
deriving DecidableEq, Repr

def Session.peer (session : Session) : Peer where
  options := session.options
  state := session.state
  logonReceived := session.logonReceived
  expectedTestRequestId := session.expectedTestRequestId
  nextTestRequestId := session.nextTestRequestId
  incoming := session.incomingMsgSeqNum.toNat
  outgoing := session.outgoingMsgSeqNum.toNat
  resent := session.incomingResentMsgSeqNum.toNat
  target := session.incomingTargetMsgSeqNum.toNat

namespace Peer

open Reaction (get modify emit undefined onlyIf)

abbrev Reply (α : Type) : Type := Reaction Peer Packet α

/-! ### What a session sends -/

def setState (state : SessionState) : Reply Unit :=
  modify fun peer => { peer with state }

def restart : Reply Unit :=
  modify fun peer => { peer with state := .resetting, outgoing := 1, incoming := 1 }

def transmit (packet : Packet) : Reply Unit :=
  if packet.readable then emit packet else undefined

def send (payload : Payload) : Reply Unit := do
  onlyIf payload.resets restart
  let peer ← get
  modify fun peer => { peer with outgoing := peer.outgoing + 1 }
  transmit ⟨peer.outgoing, payload⟩

def sendLogon (resets : Bool) : Reply Unit := do
  let peer ← get
  send (.logon resets peer.options.heartbeatInterval
    (if peer.options.useNextExpectedMsgSeqNum then some peer.incoming else none))

def sendTestRequest : Reply Unit := do
  let peer ← get
  modify fun peer =>
    { peer with
      expectedTestRequestId := some peer.nextTestRequestId
      nextTestRequestId := peer.nextTestRequestId + 1 }
  send (.testRequest peer.nextTestRequestId)

def sendPostLogonTestRequest : Reply Unit := do
  let peer ← get
  if peer.options.testRequestDelay ≠ 0 then undefined else sendTestRequest

/-- The gap fill is not numbered by `send`. -/
def performResend (beginSeqNo : Nat) : Reply Unit := do
  let peer ← get
  transmit ⟨beginSeqNo, .gapFill peer.outgoing⟩

def requestResend (received : Nat) : Reply Unit := do
  let peer ← get
  setState .resending
  modify fun peer => { peer with resent := peer.incoming, target := received }
  send (.resendRequest peer.incoming received)

def «open» : Reply Unit := do
  let peer ← get
  if peer.state ≠ .connected then undefined
  else
    setState .loggingOn
    onlyIf (peer.options.logonBehaviour = .initiator) (sendLogon false)

def defibrillate : Reply Unit := do
  let peer ← get
  onlyIf (peer.state = .loggedOn) (send (.heartbeat none))

/-! ### What a session does with a packet -/

def recover (number : Nat) : Reply Unit := do
  let peer ← get
  if peer.state = .resending then
    modify fun peer => { peer with target := max peer.target number }
  else requestResend number

def sequenceNumberIsHigh (number : Nat) : Reply Bool := do
  let peer ← get
  if peer.incoming < number then
    recover number
    pure true
  else pure false

def sequenceNumberIsLow (number : Nat) : Reply Bool := do
  let peer ← get
  if number < peer.incoming then undefined else pure false

def validateSequenceNumbers (number : Nat) : Reply Bool := do
  let high ← sequenceNumberIsHigh number
  if high then pure false
  else
    let low ← sequenceNumberIsLow number
    pure !low

def processNextExpected : Option Nat → Reply Bool
  | none => undefined
  | some nextExpected => do
      let peer ← get
      if peer.outgoing < nextExpected then undefined
      else
        onlyIf (nextExpected + 1 < peer.outgoing) do
          setState .resending
          performResend nextExpected
        onlyIf (peer.options.logonBehaviour = .acceptor) (sendLogon false)
        sendPostLogonTestRequest
        pure true

def processResetLogon (number : Nat) : Reply Bool :=
  if number ≠ 1 then pure false
  else do
    let peer ← get
    if peer.state = .resetting then
      sendTestRequest
      pure true
    else
      restart
      sendLogon true
      sendPostLogonTestRequest
      pure true

def processPlainLogon (number : Nat) : Reply Bool := do
  let low ← sequenceNumberIsLow number
  if low then pure false
  else
    let peer ← get
    onlyIf (peer.options.logonBehaviour = .acceptor) (sendLogon false)
    let high ← sequenceNumberIsHigh number
    if high then pure false
    else
      sendPostLogonTestRequest
      pure true

def extractHeartbeatInterval (heartBtInt : UInt32) : Reply Bool := do
  modify fun peer =>
    { peer with options := { peer.options with heartbeatInterval := heartBtInt } }
  pure true

def processLogon (number : Nat) (resets : Bool) (heartBtInt : UInt32)
    (nextExpected : Option Nat) : Reply Bool := do
  let extracted ← extractHeartbeatInterval heartBtInt
  if extracted then
    modify fun peer => { peer with logonReceived := true }
    let peer ← get
    if peer.options.useNextExpectedMsgSeqNum then processNextExpected nextExpected
    else if resets then processResetLogon number
    else processPlainLogon number
  else pure false

def logOn : Reply Unit := setState .loggedOn

def processHeartbeat (testReqID : Option UInt32) : Reply Unit := do
  let peer ← get
  onlyIf (peer.state = .loggingOn ∨ peer.state = .resetting ∨
      peer.state = .resending) <|
    match testReqID with
    | none => logOn
    | some received =>
        match peer.expectedTestRequestId with
        | none => pure ()
        | some expected => if received ≠ expected then undefined else logOn

def completeResend : Reply Unit := do
  let peer ← get
  onlyIf (peer.state = .resending ∧ peer.target ≤ peer.resent) sendTestRequest

def processGapFill (number newSeqNo : Nat) : Reply Unit := do
  let valid ← validateSequenceNumbers number
  onlyIf valid do
    let peer ← get
    let performing :=
      if peer.options.useNextExpectedMsgSeqNum then peer.state = .loggingOn
      else peer.state = .resending
    if performing then
      modify fun peer => { peer with resent := newSeqNo }
      modify fun peer => { peer with incoming := newSeqNo }
      completeResend
    else send .reject

def processSequenceReset (number newSeqNo : Nat) : Reply Unit := do
  let peer ← get
  if newSeqNo ≤ peer.incoming then send .reject else processGapFill number newSeqNo

def processResendRequest (beginSeqNo : Nat) : Reply Unit := do
  performResend beginSeqNo
  sendPostLogonTestRequest

def checkNumber (number : Nat) : Payload → Reply Bool
  | .logon resets heartBtInt nextExpected =>
      processLogon number resets heartBtInt nextExpected
  | _ => validateSequenceNumbers number

def dispatch : Payload → Reply Unit
  | .heartbeat testReqID => processHeartbeat testReqID
  | .testRequest testReqID => send (.heartbeat (some testReqID))
  | .resendRequest beginSeqNo _ => processResendRequest beginSeqNo
  | _ => pure ()

def processNumbered (number : Nat) (payload : Payload) : Reply Unit := do
  let proceeds ← checkNumber number payload
  onlyIf proceeds do
    modify fun peer => { peer with incoming := number + 1 }
    dispatch payload

def admits (peer : Peer) (payload : Payload) : Bool :=
  peer.options.logonBehaviour = .initiator || peer.logonReceived ||
    payload.isLogon || payload = .reject

def process (number : Nat) : Payload → Reply Unit
  | .gapFill newSeqNo => processSequenceReset number newSeqNo
  | payload => processNumbered number payload

def receive (packet : Packet) : Reply Unit := do
  let peer ← get
  if peer.admits packet.payload then process packet.number packet.payload
  else undefined

/-! ### Single reactions -/

section

variable {peer : Peer}

theorem send_eq {payload : Payload} (plain : payload.resets = false)
    (readable : Packet.readable ⟨peer.outgoing, payload⟩) :
    send payload peer =
      some ((), { peer with outgoing := peer.outgoing + 1 },
        [⟨peer.outgoing, payload⟩]) := by
  unfold send onlyIf transmit
  rw [if_neg (by simp [plain]), Reaction.pure_bind, Reaction.get_bind,
    Reaction.modify_bind, if_pos readable]
  rfl

theorem readable_of_fitsWire {number : Nat} {payload : Payload} (fits : fitsWire number)
    (within : payload.readable) : Packet.readable ⟨number, payload⟩ :=
  Bool.and_eq_true_iff.mpr ⟨fits, within⟩

theorem sendTestRequest_eq (fits : fitsWire peer.outgoing) :
    sendTestRequest peer =
      some ((), { peer with
        expectedTestRequestId := some peer.nextTestRequestId
        nextTestRequestId := peer.nextTestRequestId + 1
        outgoing := peer.outgoing + 1 },
        [⟨peer.outgoing, .testRequest peer.nextTestRequestId⟩]) := by
  unfold sendTestRequest
  rw [Reaction.get_bind, Reaction.modify_bind]
  exact send_eq rfl (readable_of_fitsWire fits rfl)

theorem sendPostLogonTestRequest_eq (immediate : peer.options.testRequestDelay = 0)
    (fits : fitsWire peer.outgoing) :
    sendPostLogonTestRequest peer =
      some ((), { peer with
        expectedTestRequestId := some peer.nextTestRequestId
        nextTestRequestId := peer.nextTestRequestId + 1
        outgoing := peer.outgoing + 1 },
        [⟨peer.outgoing, .testRequest peer.nextTestRequestId⟩]) := by
  unfold sendPostLogonTestRequest
  rw [Reaction.get_bind, if_neg (not_not.mpr immediate)]
  exact sendTestRequest_eq fits

def announced (peer : Peer) : Option Nat :=
  if peer.options.useNextExpectedMsgSeqNum then some peer.incoming else none

theorem sendLogon_eq (fits : fitsWire peer.outgoing)
    (small : fitsWire peer.options.heartbeatInterval.toNat)
    (expects : fitsWire peer.incoming) :
    sendLogon false peer =
      some ((), { peer with outgoing := peer.outgoing + 1 },
        [⟨peer.outgoing, .logon false peer.options.heartbeatInterval
          peer.announced⟩]) := by
  unfold sendLogon
  rw [Reaction.get_bind]
  apply send_eq rfl
  apply readable_of_fitsWire fits
  refine Bool.and_eq_true_iff.mpr ⟨small, ?_⟩
  split
  · exact expects
  · rfl

theorem validateSequenceNumbers_expected :
    validateSequenceNumbers peer.incoming peer = some (true, peer, []) := by
  have high : sequenceNumberIsHigh peer.incoming peer = some (false, peer, []) := by
    unfold sequenceNumberIsHigh
    rw [Reaction.get_bind, if_neg (Nat.lt_irrefl _)]
    rfl
  have low : sequenceNumberIsLow peer.incoming peer = some (false, peer, []) := by
    unfold sequenceNumberIsLow
    rw [Reaction.get_bind, if_neg (Nat.lt_irrefl _)]
    rfl
  unfold validateSequenceNumbers
  rw [Reaction.bind_of_some high, if_neg Bool.false_ne_true,
    Reaction.bind_of_some low]
  rfl

theorem receive_expected {payload : Payload} (admits : peer.admits payload)
    (notLogon : payload.isLogon = false) (notGapFill : payload.isGapFill = false) :
    receive ⟨peer.incoming, payload⟩ peer =
      dispatch payload { peer with incoming := peer.incoming + 1 } := by
  have processes : process peer.incoming payload =
      processNumbered peer.incoming payload := by
    cases payload with
    | gapFill _ => cases notGapFill
    | _ => rfl
  have checks : checkNumber peer.incoming payload peer = some (true, peer, []) := by
    cases payload with
    | logon _ _ _ => cases notLogon
    | _ => exact validateSequenceNumbers_expected
  unfold receive
  rw [Reaction.get_bind, if_pos admits, processes]
  unfold processNumbered onlyIf
  rw [Reaction.bind_of_some checks, if_pos rfl, Reaction.modify_bind]
  simp

end

end Peer

end Crocofix
