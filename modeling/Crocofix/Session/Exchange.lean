/-
What the counterpart of a session does with single packets: those of a logon,
of a recovery, and of ordinary traffic.
-/

import Crocofix.Session.Peer

namespace Crocofix

namespace Peer

variable {peer : Peer}

/-! ### Ordinary traffic -/

theorem admits_of_logonReceived (payload : Payload)
    (seen : peer.options.logonBehaviour = .initiator ∨ peer.logonReceived) :
    peer.admits payload := by
  unfold admits
  rcases seen with initiates | received
  · rw [initiates]
    rfl
  · rw [received]
    simp

theorem receive_heartbeat {testReqID : Option UInt32}
    (admits : peer.admits (.heartbeat testReqID))
    (matched : ∀ received ∈ testReqID, peer.expectedTestRequestId = some received)
    (waits : peer.state = .loggedOn ∨ peer.state = .loggingOn ∨
      peer.state = .resetting ∨ peer.state = .resending) :
    receive ⟨peer.incoming, .heartbeat testReqID⟩ peer =
      some ((), { peer with incoming := peer.incoming + 1, state := .loggedOn },
        []) := by
  rw [receive_expected admits rfl rfl]
  change processHeartbeat testReqID _ = _
  unfold processHeartbeat Reaction.onlyIf
  rw [Reaction.get_bind]
  split
  · cases testReqID with
    | none => rfl
    | some received =>
        have expects := matched received rfl
        simp only [expects, ne_eq, not_true_eq_false, if_false]
        rfl
  · next idle =>
      rcases waits with loggedOn | waiting
      · rw [← loggedOn]
        rfl
      · exact absurd waiting idle

theorem receive_heartbeat_loggedOn {testReqID : Option UInt32}
    (admits : peer.admits (.heartbeat testReqID)) (loggedOn : peer.state = .loggedOn) :
    receive ⟨peer.incoming, .heartbeat testReqID⟩ peer =
      some ((), { peer with incoming := peer.incoming + 1 }, []) := by
  rw [receive_expected admits rfl rfl]
  change processHeartbeat testReqID _ = _
  unfold processHeartbeat Reaction.onlyIf
  rw [Reaction.get_bind, if_neg]
  · rfl
  · simp [loggedOn]

theorem receive_testRequest {testReqID : UInt32}
    (admits : peer.admits (.testRequest testReqID)) (fits : fitsWire peer.outgoing) :
    receive ⟨peer.incoming, .testRequest testReqID⟩ peer =
      some ((), { peer with
        incoming := peer.incoming + 1, outgoing := peer.outgoing + 1 },
        [⟨peer.outgoing, .heartbeat (some testReqID)⟩]) := by
  rw [receive_expected admits rfl rfl]
  exact send_eq rfl (readable_of_fitsWire fits rfl)

theorem receive_application (admits : peer.admits .application) :
    receive ⟨peer.incoming, .application⟩ peer =
      some ((), { peer with incoming := peer.incoming + 1 }, []) :=
  receive_expected admits rfl rfl

theorem receive_reject (admits : peer.admits .reject) :
    receive ⟨peer.incoming, .reject⟩ peer =
      some ((), { peer with incoming := peer.incoming + 1 }, []) :=
  receive_expected admits rfl rfl

/-! ### Logon -/

def greeted (peer : Peer) (heartBtInt : UInt32) : Peer :=
  { peer with
    options := { peer.options with heartbeatInterval := heartBtInt }
    logonReceived := true }

def logonReply (peer : Peer) : List Packet :=
  if peer.options.logonBehaviour = .acceptor then
    [⟨peer.outgoing, .logon false peer.options.heartbeatInterval peer.announced⟩]
  else []

def replied (peer : Peer) : Peer :=
  { peer with outgoing := peer.outgoing + peer.logonReply.length }

theorem replied_outgoing_le (peer : Peer) :
    peer.replied.outgoing ≤ peer.outgoing + 1 := by
  unfold replied logonReply
  split <;> simp

theorem reply_eq (fits : fitsWire peer.outgoing)
    (small : fitsWire peer.options.heartbeatInterval.toNat)
    (expects : fitsWire peer.incoming) :
    Reaction.onlyIf (peer.options.logonBehaviour = .acceptor) (sendLogon false) peer =
      some ((), peer.replied, peer.logonReply) := by
  unfold Reaction.onlyIf replied logonReply
  split
  · exact sendLogon_eq fits small expects
  · rfl

theorem receive_logon {number : Nat} {resets : Bool} {heartBtInt : UInt32}
    {nextExpected : Option Nat} {proceeds : Bool} {after : Peer} {sent : List Packet}
    (processes :
      (if peer.options.useNextExpectedMsgSeqNum then processNextExpected nextExpected
        else if resets then processResetLogon number
        else processPlainLogon number) (peer.greeted heartBtInt) =
        some (proceeds, after, sent)) :
    receive ⟨number, .logon resets heartBtInt nextExpected⟩ peer =
      some ((),
        if proceeds then { after with incoming := number + 1 } else after, sent) := by
  have admits : peer.admits (.logon resets heartBtInt nextExpected) := by
    unfold Peer.admits
    simp [Payload.isLogon]
  have checks : checkNumber number (.logon resets heartBtInt nextExpected) peer =
      some (proceeds, after, sent) := by
    change processLogon number resets heartBtInt nextExpected peer = _
    unfold processLogon extractHeartbeatInterval
    rw [Reaction.bind_of_some (Reaction.modify_bind ..), if_pos rfl,
      Reaction.modify_bind, Reaction.get_bind]
    simp only [List.nil_append, Option.map_id']
    exact processes
  unfold receive
  rw [Reaction.get_bind, if_pos admits]
  change processNumbered number _ peer = _
  unfold processNumbered Reaction.onlyIf
  rw [Reaction.bind_of_some checks]
  cases proceeds with
  | false => simp
  | true =>
      rw [if_pos rfl, Reaction.modify_bind]
      simp [dispatch]

def tested (peer : Peer) : Peer :=
  { peer with
    expectedTestRequestId := some peer.nextTestRequestId
    nextTestRequestId := peer.nextTestRequestId + 1
    outgoing := peer.outgoing + 1 }

def testing (peer : Peer) : Packet :=
  ⟨peer.outgoing, .testRequest peer.nextTestRequestId⟩

def demanded (peer : Peer) (received : Nat) : Peer :=
  { peer with
    state := .resending
    resent := peer.incoming
    target := received
    outgoing := peer.outgoing + 1 }

def demand (peer : Peer) (received : Nat) : Packet :=
  ⟨peer.outgoing, .resendRequest peer.incoming received⟩

theorem requestResend_eq {received : Nat} (fits : fitsWire peer.outgoing)
    (expects : fitsWire peer.incoming) (high : fitsWire received) :
    requestResend received peer =
      some ((), peer.demanded received, [peer.demand received]) := by
  unfold requestResend setState
  rw [Reaction.get_bind, Reaction.modify_bind, Reaction.modify_bind]
  exact send_eq rfl (readable_of_fitsWire fits (Bool.and_eq_true_iff.mpr ⟨expects, high⟩))

theorem performResend_eq {beginSeqNo : Nat} (first : fitsWire beginSeqNo)
    (last : fitsWire peer.outgoing) :
    performResend beginSeqNo peer =
      some ((), peer, [⟨beginSeqNo, .gapFill peer.outgoing⟩]) := by
  have readable : Payload.readable (.gapFill peer.outgoing) := last
  unfold performResend transmit
  rw [Reaction.get_bind, if_pos (readable_of_fitsWire first readable)]
  rfl

theorem fitsWire_of_le {low high : Nat} (fits : fitsWire high) (below : low ≤ high) :
    fitsWire low :=
  decide_eq_true (Nat.lt_of_le_of_lt below (of_decide_eq_true fits))

theorem sequenceNumberIsHigh_of_le {number : Nat} (below : number ≤ peer.incoming) :
    sequenceNumberIsHigh number peer = some (false, peer, []) := by
  unfold sequenceNumberIsHigh
  rw [Reaction.get_bind, if_neg (Nat.not_lt.mpr below)]
  rfl

theorem sequenceNumberIsLow_of_le {number : Nat} (above : peer.incoming ≤ number) :
    sequenceNumberIsLow number peer = some (false, peer, []) := by
  unfold sequenceNumberIsLow
  rw [Reaction.get_bind, if_neg (Nat.not_lt.mpr above)]
  rfl

theorem processPlainLogon_expected (immediate : peer.options.testRequestDelay = 0)
    (small : fitsWire peer.options.heartbeatInterval.toNat)
    (fits : fitsWire (peer.outgoing + 1)) (expects : fitsWire peer.incoming) :
    processPlainLogon peer.incoming peer =
      some (true, peer.replied.tested, peer.logonReply ++ [peer.replied.testing]) := by
  have replies := reply_eq (fitsWire_of_le fits (Nat.le_succ _)) small expects
  have low : sequenceNumberIsLow peer.incoming peer = some (false, peer, []) :=
    sequenceNumberIsLow_of_le (Nat.le_refl _)
  have high : sequenceNumberIsHigh peer.incoming peer.replied =
      some (false, peer.replied, []) := sequenceNumberIsHigh_of_le (Nat.le_refl _)
  have tests := @sendPostLogonTestRequest_eq peer.replied immediate
    (fitsWire_of_le fits (replied_outgoing_le peer))
  unfold processPlainLogon
  rw [Reaction.bind_of_some low, if_neg Bool.false_ne_true, Reaction.get_bind,
    Reaction.bind_of_some replies, Reaction.bind_of_some high,
    if_neg Bool.false_ne_true, Reaction.bind_of_some tests]
  simp [tested, testing]

theorem processPlainLogon_high {number : Nat} (above : peer.incoming < number)
    (idle : peer.state ≠ .resending)
    (small : fitsWire peer.options.heartbeatInterval.toNat)
    (fits : fitsWire (peer.outgoing + 1)) (readable : fitsWire number) :
    processPlainLogon number peer =
      some (false, peer.replied.demanded number,
        peer.logonReply ++ [peer.replied.demand number]) := by
  have expects : fitsWire peer.incoming := fitsWire_of_le readable (Nat.le_of_lt above)
  have replies := reply_eq (fitsWire_of_le fits (Nat.le_succ _)) small expects
  have low : sequenceNumberIsLow number peer = some (false, peer, []) :=
    sequenceNumberIsLow_of_le (Nat.le_of_lt above)
  have demands := @requestResend_eq peer.replied number
    (fitsWire_of_le fits (replied_outgoing_le peer)) expects readable
  have high : sequenceNumberIsHigh number peer.replied =
      some (true, peer.replied.demanded number, [peer.replied.demand number]) := by
    have recovers : recover number peer.replied =
        requestResend number peer.replied := by
      unfold recover
      rw [Reaction.get_bind, if_neg (show peer.replied.state ≠ .resending from idle)]
    unfold sequenceNumberIsHigh
    rw [Reaction.get_bind, if_pos (show peer.replied.incoming < number from above),
      Reaction.bind_of_some (recovers.trans demands)]
    rfl
  unfold processPlainLogon
  rw [Reaction.bind_of_some low, if_neg Bool.false_ne_true, Reaction.get_bind,
    Reaction.bind_of_some replies, Reaction.bind_of_some high, if_pos rfl]
  simp

/-- What the peer sends again because the other side announced a lower number,
and the peer afterwards.  One missing packet is left to the Logon itself. -/
def fillFrom (peer : Peer) (nextExpected : Nat) : List Packet :=
  if nextExpected + 1 < peer.outgoing then
    [⟨nextExpected, .gapFill peer.outgoing⟩]
  else []

def filling (peer : Peer) (nextExpected : Nat) : Peer :=
  { peer with
    state := if nextExpected + 1 < peer.outgoing then .resending else peer.state }

theorem processNextExpected_eq {nextExpected : Nat}
    (sent : nextExpected ≤ peer.outgoing)
    (immediate : peer.options.testRequestDelay = 0)
    (small : fitsWire peer.options.heartbeatInterval.toNat)
    (fits : fitsWire (peer.outgoing + 1)) (expects : fitsWire peer.incoming) :
    processNextExpected (some nextExpected) peer =
      some (true, (peer.filling nextExpected).replied.tested,
        peer.fillFrom nextExpected ++ (peer.logonReply ++ [peer.replied.testing])) := by
  have within : fitsWire peer.outgoing := fitsWire_of_le fits (Nat.le_succ _)
  have fills : Reaction.onlyIf (nextExpected + 1 < peer.outgoing)
      (do setState .resending; performResend nextExpected) peer =
      some ((), peer.filling nextExpected, peer.fillFrom nextExpected) := by
    unfold Reaction.onlyIf filling fillFrom
    split
    · unfold setState
      rw [Reaction.modify_bind]
      exact performResend_eq (fitsWire_of_le within sent) within
    · rfl
  have replies : Reaction.onlyIf (peer.options.logonBehaviour = .acceptor)
      (sendLogon false) (peer.filling nextExpected) =
      some ((), (peer.filling nextExpected).replied, peer.logonReply) :=
    @reply_eq (peer.filling nextExpected) within small expects
  have tests := @sendPostLogonTestRequest_eq
    (peer.filling nextExpected).replied immediate
    (fitsWire_of_le fits (replied_outgoing_le (peer.filling nextExpected)))
  simp only [processNextExpected]
  rw [Reaction.get_bind, if_neg (Nat.not_lt.mpr sent), Reaction.bind_of_some fills,
    Reaction.bind_of_some replies, Reaction.bind_of_some tests]
  rfl

theorem receive_logon_agreed {heartBtInt : UInt32} {nextExpected : Nat}
    (agrees : nextExpected ≤ peer.outgoing ∧ peer.outgoing ≤ nextExpected + 1)
    (immediate : peer.options.testRequestDelay = 0) (small : fitsWire heartBtInt.toNat)
    (fits : fitsWire (peer.outgoing + 1)) (expects : fitsWire peer.incoming) :
    receive ⟨peer.incoming, .logon false heartBtInt
        (if peer.options.useNextExpectedMsgSeqNum then some nextExpected else none)⟩
        peer =
      some ((),
        { (peer.greeted heartBtInt).replied.tested with incoming := peer.incoming + 1 },
        (peer.greeted heartBtInt).logonReply ++
          [(peer.greeted heartBtInt).replied.testing]) := by
  have missing : ¬ nextExpected + 1 < (peer.greeted heartBtInt).outgoing :=
    Nat.not_lt.mpr agrees.2
  have processes :
      (if peer.options.useNextExpectedMsgSeqNum then
          processNextExpected
            (if peer.options.useNextExpectedMsgSeqNum then some nextExpected else none)
        else if false then processResetLogon peer.incoming
        else processPlainLogon peer.incoming) (peer.greeted heartBtInt) =
        some (true, (peer.greeted heartBtInt).replied.tested,
          (peer.greeted heartBtInt).logonReply ++
            [(peer.greeted heartBtInt).replied.testing]) := by
    cases peer.options.useNextExpectedMsgSeqNum with
    | true =>
        have runs := @processNextExpected_eq (peer.greeted heartBtInt) nextExpected
          agrees.1 immediate small fits expects
        unfold filling fillFrom at runs
        rw [if_neg missing, if_neg missing] at runs
        exact runs
    | false =>
        exact @processPlainLogon_expected (peer.greeted heartBtInt) immediate small fits
          expects
  exact receive_logon processes

theorem receive_logon_high {number : Nat} {heartBtInt : UInt32}
    (plain : peer.options.useNextExpectedMsgSeqNum = false)
    (above : peer.incoming < number) (idle : peer.state ≠ .resending)
    (small : fitsWire heartBtInt.toNat) (fits : fitsWire (peer.outgoing + 1))
    (readable : fitsWire number) :
    receive ⟨number, .logon false heartBtInt none⟩ peer =
      some ((), (peer.greeted heartBtInt).replied.demanded number,
        (peer.greeted heartBtInt).logonReply ++
          [(peer.greeted heartBtInt).replied.demand number]) := by
  have processes :
      (if peer.options.useNextExpectedMsgSeqNum then processNextExpected none
        else if false then processResetLogon number
        else processPlainLogon number) (peer.greeted heartBtInt) =
        some (false, (peer.greeted heartBtInt).replied.demanded number,
          (peer.greeted heartBtInt).logonReply ++
            [(peer.greeted heartBtInt).replied.demand number]) := by
    rw [plain]
    exact @processPlainLogon_high (peer.greeted heartBtInt) number above idle small fits
      readable
  exact receive_logon processes

theorem receive_logon_announced {number nextExpected : Nat} {heartBtInt : UInt32}
    (announces : peer.options.useNextExpectedMsgSeqNum)
    (sent : nextExpected ≤ peer.outgoing)
    (immediate : peer.options.testRequestDelay = 0) (small : fitsWire heartBtInt.toNat)
    (fits : fitsWire (peer.outgoing + 1)) (expects : fitsWire peer.incoming) :
    receive ⟨number, .logon false heartBtInt (some nextExpected)⟩ peer =
      some ((),
        { ((peer.greeted heartBtInt).filling nextExpected).replied.tested with
          incoming := number + 1 },
        (peer.greeted heartBtInt).fillFrom nextExpected ++
          ((peer.greeted heartBtInt).logonReply ++
            [(peer.greeted heartBtInt).replied.testing])) := by
  have processes :
      (if peer.options.useNextExpectedMsgSeqNum then
          processNextExpected (some nextExpected)
        else if false then processResetLogon number
        else processPlainLogon number) (peer.greeted heartBtInt) =
        some (true, ((peer.greeted heartBtInt).filling nextExpected).replied.tested,
          (peer.greeted heartBtInt).fillFrom nextExpected ++
            ((peer.greeted heartBtInt).logonReply ++
              [(peer.greeted heartBtInt).replied.testing])) := by
    rw [announces]
    exact @processNextExpected_eq (peer.greeted heartBtInt) nextExpected sent immediate
      small fits expects
  exact receive_logon processes

/-! ### Recovery -/

theorem receive_early {number : Nat} {payload : Payload}
    (admits : peer.admits payload) (notLogon : payload.isLogon = false)
    (notGapFill : payload.isGapFill = false) (above : peer.incoming < number)
    (recovering : peer.state = .resending) :
    receive ⟨number, payload⟩ peer =
      some ((), { peer with target := max peer.target number }, []) := by
  have high : sequenceNumberIsHigh number peer =
      some (true, { peer with target := max peer.target number }, []) := by
    unfold sequenceNumberIsHigh recover
    rw [Reaction.get_bind, if_pos above]
    have recovers : (Reaction.get >>= fun peer =>
        if peer.state = .resending then
          Reaction.modify fun peer => { peer with target := max peer.target number }
        else requestResend number) peer =
        some ((), { peer with target := max peer.target number }, []) := by
      rw [Reaction.get_bind, if_pos recovering]
      rfl
    rw [Reaction.bind_of_some recovers]
    rfl
  have processes : process number payload = processNumbered number payload := by
    cases payload with
    | gapFill _ => cases notGapFill
    | _ => rfl
  have checks : checkNumber number payload peer =
      some (false, { peer with target := max peer.target number }, []) := by
    have validates : validateSequenceNumbers number peer =
        some (false, { peer with target := max peer.target number }, []) := by
      unfold validateSequenceNumbers
      rw [Reaction.bind_of_some high, if_pos rfl]
      rfl
    cases payload with
    | logon _ _ _ => cases notLogon
    | _ => exact validates
  unfold receive
  rw [Reaction.get_bind, if_pos admits, processes]
  unfold processNumbered Reaction.onlyIf
  rw [Reaction.bind_of_some checks]
  rfl

theorem receive_resendRequest {beginSeqNo endSeqNo : Nat}
    (admits : peer.admits (.resendRequest beginSeqNo endSeqNo))
    (immediate : peer.options.testRequestDelay = 0) (first : fitsWire beginSeqNo)
    (fits : fitsWire peer.outgoing) :
    receive ⟨peer.incoming, .resendRequest beginSeqNo endSeqNo⟩ peer =
      some ((), { peer.tested with incoming := peer.incoming + 1 },
        [⟨beginSeqNo, .gapFill peer.outgoing⟩, peer.testing]) := by
  have resends : performResend beginSeqNo { peer with incoming := peer.incoming + 1 } =
      some ((), { peer with incoming := peer.incoming + 1 },
        [⟨beginSeqNo, .gapFill peer.outgoing⟩]) := performResend_eq first fits
  have tests := @sendPostLogonTestRequest_eq
    { peer with incoming := peer.incoming + 1 } immediate fits
  rw [receive_expected admits rfl rfl]
  change processResendRequest beginSeqNo _ = _
  unfold processResendRequest
  rw [Reaction.bind_of_some resends, tests]
  rfl

theorem receive_gapFill {newSeqNo : Nat} (admits : peer.admits (.gapFill newSeqNo))
    (forward : peer.incoming < newSeqNo)
    (performing : if peer.options.useNextExpectedMsgSeqNum then peer.state = .loggingOn
      else peer.state = .resending) :
    receive ⟨peer.incoming, .gapFill newSeqNo⟩ peer =
      completeResend { peer with resent := newSeqNo, incoming := newSeqNo } := by
  unfold receive
  rw [Reaction.get_bind, if_pos admits]
  change processSequenceReset peer.incoming newSeqNo peer = _
  unfold processSequenceReset
  rw [Reaction.get_bind, if_neg (Nat.not_le.mpr forward)]
  unfold processGapFill Reaction.onlyIf
  rw [Reaction.bind_of_some validateSequenceNumbers_expected, if_pos rfl,
    Reaction.get_bind, if_pos performing, Reaction.modify_bind, Reaction.modify_bind]
  simp

theorem receive_gapFill_recovering {newSeqNo : Nat}
    (admits : peer.admits (.gapFill newSeqNo)) (forward : peer.incoming < newSeqNo)
    (plain : peer.options.useNextExpectedMsgSeqNum = false)
    (recovering : peer.state = .resending) (complete : peer.target ≤ newSeqNo)
    (fits : fitsWire peer.outgoing) :
    receive ⟨peer.incoming, .gapFill newSeqNo⟩ peer =
      some ((), { peer.tested with resent := newSeqNo, incoming := newSeqNo },
        [peer.testing]) := by
  have performing : if peer.options.useNextExpectedMsgSeqNum then
      peer.state = .loggingOn else peer.state = .resending := by
    rw [plain]
    exact recovering
  rw [receive_gapFill admits forward performing]
  unfold completeResend Reaction.onlyIf
  rw [Reaction.get_bind, if_pos ⟨recovering, complete⟩]
  exact sendTestRequest_eq fits

theorem receive_gapFill_loggingOn {newSeqNo : Nat}
    (admits : peer.admits (.gapFill newSeqNo)) (forward : peer.incoming < newSeqNo)
    (announces : peer.options.useNextExpectedMsgSeqNum)
    (loggingOn : peer.state = .loggingOn) :
    receive ⟨peer.incoming, .gapFill newSeqNo⟩ peer =
      some ((), { peer with resent := newSeqNo, incoming := newSeqNo }, []) := by
  have performing : if peer.options.useNextExpectedMsgSeqNum then
      peer.state = .loggingOn else peer.state = .resending := by
    rw [announces]
    exact loggingOn
  rw [receive_gapFill admits forward performing]
  unfold completeResend Reaction.onlyIf
  rw [Reaction.get_bind, if_neg fun recovering => nomatch loggingOn ▸ recovering.1]
  rfl

theorem receive_gapFill_low {number newSeqNo : Nat}
    (admits : peer.admits (.gapFill newSeqNo)) (low : newSeqNo ≤ peer.incoming)
    (fits : fitsWire peer.outgoing) :
    receive ⟨number, .gapFill newSeqNo⟩ peer =
      some ((), { peer with outgoing := peer.outgoing + 1 },
        [⟨peer.outgoing, .reject⟩]) := by
  unfold receive
  rw [Reaction.get_bind, if_pos admits]
  change processSequenceReset number newSeqNo peer = _
  unfold processSequenceReset
  rw [Reaction.get_bind, if_pos low]
  exact send_eq rfl (readable_of_fitsWire fits rfl)

/-! ### A Logon that restarts the numbering -/

def restarted (peer : Peer) : Peer :=
  { peer with state := .resetting, incoming := 1, outgoing := 2 }

theorem send_resetLogon {payload : Payload} (resets : payload.resets)
    (readable : payload.readable) :
    send payload peer = some ((), peer.restarted, [⟨1, payload⟩]) := by
  unfold send Reaction.onlyIf restart transmit
  rw [if_pos resets, Reaction.modify_bind, Reaction.get_bind, Reaction.modify_bind,
    if_pos (readable_of_fitsWire (show fitsWire 1 by decide) readable)]
  rfl

theorem receive_resetLogon {heartBtInt : UInt32} {nextExpected : Option Nat}
    (plain : peer.options.useNextExpectedMsgSeqNum = false)
    (idle : peer.state ≠ .resetting) (immediate : peer.options.testRequestDelay = 0)
    (small : fitsWire heartBtInt.toNat) :
    receive ⟨1, .logon true heartBtInt nextExpected⟩ peer =
      some ((), { (peer.greeted heartBtInt).restarted.tested with incoming := 2 },
        [⟨1, .logon true heartBtInt none⟩, (peer.greeted heartBtInt).restarted.testing]) := by
  have sends : sendLogon true
      { peer.greeted heartBtInt with state := .resetting, outgoing := 1, incoming := 1 } =
      some ((), (peer.greeted heartBtInt).restarted,
        [⟨1, .logon true heartBtInt none⟩]) := by
    unfold sendLogon
    rw [Reaction.get_bind]
    change send (.logon true heartBtInt
      (if peer.options.useNextExpectedMsgSeqNum then some 1 else none)) _ = _
    rw [plain]
    exact send_resetLogon rfl (Bool.and_eq_true_iff.mpr ⟨small, rfl⟩)
  have tests : sendPostLogonTestRequest (peer.greeted heartBtInt).restarted =
      some ((), (peer.greeted heartBtInt).restarted.tested,
        [(peer.greeted heartBtInt).restarted.testing]) :=
    sendPostLogonTestRequest_eq immediate (show fitsWire 2 by decide)
  have processes :
      (if peer.options.useNextExpectedMsgSeqNum then processNextExpected nextExpected
        else if true then processResetLogon 1
        else processPlainLogon 1) (peer.greeted heartBtInt) =
        some (true, (peer.greeted heartBtInt).restarted.tested,
          [⟨1, .logon true heartBtInt none⟩,
            (peer.greeted heartBtInt).restarted.testing]) := by
    have differs : (peer.greeted heartBtInt).state ≠ .resetting := idle
    rw [plain]
    change processResetLogon 1 (peer.greeted heartBtInt) = _
    unfold processResetLogon restart
    rw [if_neg (not_not.mpr rfl), Reaction.get_bind, if_neg differs, Reaction.modify_bind,
      Reaction.bind_of_some sends, Reaction.bind_of_some tests]
    rfl
  exact receive_logon processes

theorem receive_resetLogon_answer {heartBtInt : UInt32} {nextExpected : Option Nat}
    (plain : peer.options.useNextExpectedMsgSeqNum = false)
    (resetting : peer.state = .resetting) (fits : fitsWire peer.outgoing) :
    receive ⟨1, .logon true heartBtInt nextExpected⟩ peer =
      some ((), { (peer.greeted heartBtInt).tested with incoming := 2 },
        [(peer.greeted heartBtInt).testing]) := by
  have tests : sendTestRequest (peer.greeted heartBtInt) =
      some ((), (peer.greeted heartBtInt).tested, [(peer.greeted heartBtInt).testing]) :=
    sendTestRequest_eq fits
  have processes :
      (if peer.options.useNextExpectedMsgSeqNum then processNextExpected nextExpected
        else if true then processResetLogon 1
        else processPlainLogon 1) (peer.greeted heartBtInt) =
        some (true, (peer.greeted heartBtInt).tested,
          [(peer.greeted heartBtInt).testing]) := by
    have waits : (peer.greeted heartBtInt).state = .resetting := resetting
    rw [plain]
    change processResetLogon 1 (peer.greeted heartBtInt) = _
    unfold processResetLogon
    rw [if_neg (not_not.mpr rfl), Reaction.get_bind, if_pos waits,
      Reaction.bind_of_some tests]
    rfl
  exact receive_logon processes

/-! ### No reaction ends the connection -/

def Connected (peer : Peer) : Prop := peer.state ≠ .disconnected

abbrev StaysConnected {α : Type} (reply : Reply α) : Prop :=
  Reaction.Preserves Connected reply

theorem setState_connected {state : SessionState} (connected : state ≠ .disconnected) :
    StaysConnected (setState state) :=
  Reaction.preserves_modify fun _ _ => connected

theorem restart_connected : StaysConnected restart :=
  Reaction.preserves_modify fun _ _ => nofun

theorem transmit_connected (packet : Packet) : StaysConnected (transmit packet) :=
  (Reaction.preserves_emit packet).ite Reaction.preserves_undefined

theorem send_connected (payload : Payload) : StaysConnected (send payload) := by
  refine Reaction.Preserves.bind (Reaction.Preserves.onlyIf restart_connected) ?_
  intro _
  apply Reaction.Preserves.of_get
  intro peer
  refine Reaction.Preserves.of_modify (fun _ connected => connected) ?_
  exact transmit_connected _

theorem sendLogon_connected (resets : Bool) : StaysConnected (sendLogon resets) :=
  Reaction.Preserves.of_get fun _ => send_connected _

theorem sendTestRequest_connected : StaysConnected sendTestRequest := by
  apply Reaction.Preserves.of_get
  intro peer
  refine Reaction.Preserves.of_modify (fun _ connected => connected) ?_
  exact send_connected _

theorem sendPostLogonTestRequest_connected : StaysConnected sendPostLogonTestRequest :=
  Reaction.Preserves.of_get fun _ =>
    Reaction.preserves_undefined.ite sendTestRequest_connected

theorem performResend_connected (beginSeqNo : Nat) :
    StaysConnected (performResend beginSeqNo) :=
  Reaction.Preserves.of_get fun _ => transmit_connected _

theorem requestResend_connected (received : Nat) :
    StaysConnected (requestResend received) := by
  apply Reaction.Preserves.of_get
  intro peer
  refine Reaction.Preserves.bind (setState_connected nofun) ?_
  intro _
  refine Reaction.Preserves.of_modify (fun _ connected => connected) ?_
  exact send_connected _

theorem sequenceNumberIsHigh_connected (number : Nat) :
    StaysConnected (sequenceNumberIsHigh number) := by
  apply Reaction.Preserves.of_get
  intro peer
  apply Reaction.Preserves.ite
  · refine Reaction.Preserves.bind ?_ fun _ => Reaction.preserves_pure _
    apply Reaction.Preserves.of_get
    intro recovering
    exact Reaction.Preserves.ite
      (Reaction.preserves_modify fun _ connected => connected)
      (requestResend_connected number)
  · exact Reaction.preserves_pure _

theorem sequenceNumberIsLow_connected (number : Nat) :
    StaysConnected (sequenceNumberIsLow number) :=
  Reaction.Preserves.of_get fun _ =>
    Reaction.preserves_undefined.ite (Reaction.preserves_pure _)

theorem validateSequenceNumbers_connected (number : Nat) :
    StaysConnected (validateSequenceNumbers number) := by
  refine Reaction.Preserves.bind (sequenceNumberIsHigh_connected number) ?_
  intro high
  refine Reaction.Preserves.ite (Reaction.preserves_pure _) ?_
  exact (sequenceNumberIsLow_connected number).bind fun _ => Reaction.preserves_pure _

theorem processNextExpected_connected (nextExpected : Option Nat) :
    StaysConnected (processNextExpected nextExpected) := by
  cases nextExpected with
  | none => exact Reaction.preserves_undefined
  | some nextExpected =>
      apply Reaction.Preserves.of_get
      intro peer
      refine Reaction.Preserves.ite Reaction.preserves_undefined ?_
      refine Reaction.Preserves.bind (Reaction.Preserves.onlyIf ?_) ?_
      · exact Reaction.Preserves.bind (setState_connected nofun)
          fun _ => performResend_connected _
      · intro _
        refine Reaction.Preserves.bind (Reaction.Preserves.onlyIf (sendLogon_connected false)) ?_
        intro _
        exact sendPostLogonTestRequest_connected.bind fun _ => Reaction.preserves_pure _

theorem processResetLogon_connected (number : Nat) :
    StaysConnected (processResetLogon number) := by
  refine Reaction.Preserves.ite (Reaction.preserves_pure _) ?_
  apply Reaction.Preserves.of_get
  intro peer
  apply Reaction.Preserves.ite
  · exact sendTestRequest_connected.bind fun _ => Reaction.preserves_pure _
  · apply restart_connected.bind
    intro _
    refine Reaction.Preserves.bind (sendLogon_connected true) ?_
    intro _
    exact sendPostLogonTestRequest_connected.bind fun _ => Reaction.preserves_pure _

theorem processPlainLogon_connected (number : Nat) :
    StaysConnected (processPlainLogon number) := by
  refine Reaction.Preserves.bind (sequenceNumberIsLow_connected number) ?_
  intro low
  refine Reaction.Preserves.ite (Reaction.preserves_pure _) ?_
  apply Reaction.Preserves.of_get
  intro peer
  refine Reaction.Preserves.bind (Reaction.Preserves.onlyIf (sendLogon_connected false)) ?_
  intro _
  refine Reaction.Preserves.bind (sequenceNumberIsHigh_connected number) ?_
  intro high
  refine Reaction.Preserves.ite (Reaction.preserves_pure _) ?_
  exact sendPostLogonTestRequest_connected.bind fun _ => Reaction.preserves_pure _

theorem processLogon_connected (number : Nat) (resets : Bool) (heartBtInt : UInt32)
    (nextExpected : Option Nat) :
    StaysConnected (processLogon number resets heartBtInt nextExpected) := by
  apply Reaction.Preserves.bind
  · exact Reaction.Preserves.of_modify (fun _ connected => connected)
      (Reaction.preserves_pure _)
  · intro extracted
    refine Reaction.Preserves.ite ?_ (Reaction.preserves_pure _)
    refine Reaction.Preserves.of_modify (fun _ connected => connected) ?_
    apply Reaction.Preserves.of_get
    intro peer
    exact (processNextExpected_connected nextExpected).ite
      ((processResetLogon_connected number).ite (processPlainLogon_connected number))

theorem processHeartbeat_connected (testReqID : Option UInt32) :
    StaysConnected (processHeartbeat testReqID) := by
  apply Reaction.Preserves.of_get
  intro peer
  apply Reaction.Preserves.onlyIf
  have logsOn : StaysConnected logOn := setState_connected nofun
  cases testReqID with
  | none => exact logsOn
  | some received =>
      cases peer.expectedTestRequestId with
      | none => exact Reaction.preserves_pure _
      | some expected => exact Reaction.preserves_undefined.ite logsOn

theorem processGapFill_connected (number newSeqNo : Nat) :
    StaysConnected (processGapFill number newSeqNo) := by
  refine Reaction.Preserves.bind (validateSequenceNumbers_connected number) ?_
  intro valid
  apply Reaction.Preserves.onlyIf
  apply Reaction.Preserves.of_get
  intro peer
  apply Reaction.Preserves.ite
  · refine Reaction.Preserves.of_modify (fun _ connected => connected) ?_
    refine Reaction.Preserves.of_modify (fun _ connected => connected) ?_
    exact Reaction.Preserves.of_get fun _ => sendTestRequest_connected.onlyIf
  · exact send_connected _

theorem dispatch_connected (payload : Payload) : StaysConnected (dispatch payload) := by
  cases payload with
  | heartbeat testReqID => exact processHeartbeat_connected testReqID
  | testRequest testReqID => exact send_connected _
  | resendRequest beginSeqNo endSeqNo =>
      exact (performResend_connected beginSeqNo).bind fun _ =>
        sendPostLogonTestRequest_connected
  | logon _ _ _ | gapFill _ | reject | application => exact Reaction.preserves_pure _

theorem processNumbered_connected (number : Nat) (payload : Payload) :
    StaysConnected (processNumbered number payload) := by
  have checks : StaysConnected (checkNumber number payload) := by
    cases payload with
    | logon resets heartBtInt nextExpected =>
        exact processLogon_connected number resets heartBtInt nextExpected
    | _ => exact validateSequenceNumbers_connected number
  refine Reaction.Preserves.bind checks ?_
  intro proceeds
  apply Reaction.Preserves.onlyIf
  refine Reaction.Preserves.of_modify (fun _ connected => connected) ?_
  exact dispatch_connected payload

theorem receive_connected (packet : Packet) : StaysConnected (receive packet) := by
  apply Reaction.Preserves.of_get
  intro peer
  refine Reaction.Preserves.ite ?_ Reaction.preserves_undefined
  cases packet.payload with
  | gapFill newSeqNo =>
      exact Reaction.Preserves.of_get fun _ =>
        (send_connected _).ite (processGapFill_connected _ newSeqNo)
  | _ => exact processNumbered_connected _ _

end Peer

end Crocofix
