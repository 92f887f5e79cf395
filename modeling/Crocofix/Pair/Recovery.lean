/-
Two sessions of which one, or both, have missed messages recover.

One order of deliveries is followed to its end; the others end there too.
-/

import Crocofix.Pair.Agreement

namespace Crocofix

open Network (Side Config Delivers)

namespace Pair

open Session (World)

/-! ### Orders of deliveries -/

def Ends (goal : Model → Prop) (model : Model) : Prop :=
  ∃ count last, Delivers react count model last ∧ last.Quiet ∧ goal last

abbrev Settles (model : Model) : Prop := Ends Settled model

section Steps

variable {goal : Model → Prop} {left right next : Peer} {packet : Packet}
  {rest sent toLeft toRight : List Packet}

theorem Ends.deliver_left (receives : Peer.receive packet left = some ((), next, sent))
    (later : Ends goal (facing next right rest (toRight ++ sent))) :
    Ends goal (facing left right (packet :: rest) toRight) := by
  obtain ⟨count, last, run, settled⟩ := later
  have delivered : (facing left right (packet :: rest) toRight).deliver react .left =
      some (facing next right rest (toRight ++ sent)) := by
    have waiting : (facing left right (packet :: rest) toRight).channel .left =
      packet :: rest := rfl
    rw [deliver_eq waiting receives]
    exact congrArg some (eq_facing _)
  exact ⟨count + 1, last, .next .left delivered run, settled⟩

theorem Ends.deliver_right (receives : Peer.receive packet right = some ((), next, sent))
    (later : Ends goal (facing left next (toLeft ++ sent) rest)) :
    Ends goal (facing left right toLeft (packet :: rest)) := by
  obtain ⟨count, last, run, settled⟩ := later
  have delivered : (facing left right toLeft (packet :: rest)).deliver react .right =
      some (facing left next (toLeft ++ sent) rest) := by
    have waiting : (facing left right toLeft (packet :: rest)).channel .right =
      packet :: rest := rfl
    rw [deliver_eq waiting receives]
    exact congrArg some (eq_facing _)
  exact ⟨count + 1, last, .next .right delivered run, settled⟩

end Steps

/-! ### Either side may be the left one -/

def swapped (model : Model) : Model where
  state side := model.state side.other
  channel side := model.channel side.other

theorem swapped_deliver {model after : Model} {side : Side}
    (delivered : model.deliver react side = some after) :
    (swapped model).deliver react side.other = some (swapped after) := by
  obtain ⟨packet, rest, next, sent, delivery⟩ := Config.deliver_eq_some delivered
  have waiting : (swapped model).channel side.other = packet :: rest := by
    change model.channel side.other.other = _
    rw [Side.other_other]
    exact delivery.waiting
  have receives : react side.other packet ((swapped model).state side.other) =
      some (next, sent) := by
    change react side packet (model.state side.other.other) = _
    rw [Side.other_other]
    exact delivery.reacts
  have same : ((swapped model).take side.other rest).move side.other next sent =
      swapped after := by
    have own : (swapped after).state side.other = next := by
      change after.state side.other.other = _
      rw [Side.other_other]
      exact delivery.state
    have channel : (swapped after).channel side.other = rest := by
      change after.channel side.other.other = _
      rw [Side.other_other]
      exact delivery.channel
    apply Config.ext_side side.other
    · rw [Config.move_state_self, own]
    · rw [Config.move_state_other, Side.other_other]
      exact delivery.stateOther.symm
    · rw [Config.move_channel_self, Config.take_channel_self, channel]
    · rw [Config.move_channel_other, Config.take_channel_other, Side.other_other]
      exact delivery.channelOther.symm
  rw [← same]
  exact Config.deliver_eq waiting receives

theorem Settled.swapped {model : Model} (settled : Settled model) :
    Settled (swapped model) where
  consecutive side := settled.consecutive side.other
  seen side := settled.seen side.other
  traffic side := settled.traffic side.other
  stands side := settled.stands side.other

theorem Settles.swapped {model : Model} (settles : Settles model) :
    Settles (swapped model) := by
  obtain ⟨count, last, run, quiet, settled⟩ := settles
  refine ⟨count, Pair.swapped last, ?_, fun side => quiet side.other, settled.swapped⟩
  clear quiet settled
  induction run with
  | rest config => exact .rest _
  | next side delivered others ih => exact .next side.other (swapped_deliver delivered) ih

theorem Settles.swap {left right : Peer} {toLeft toRight : List Packet}
    (settles : Settles (facing left right toLeft toRight)) :
    Settles (facing right left toRight toLeft) := by
  rw [eq_facing (facing right left toRight toLeft)]
  exact eq_facing (Pair.swapped (facing left right toLeft toRight)) ▸ settles.swapped

/-! ### What the Logons come to -/

theorem fitsWire_of_lt {number : Nat} (below : number < 2147483648) : fitsWire number :=
  decide_eq_true below

theorem settles_of_traffic {left right : Peer} {toLeft toRight : List Packet}
    (seen : left.logonReceived ∧ right.logonReceived)
    (numbered : Numbered toLeft left.incoming right.outgoing ∧
      Numbered toRight right.incoming left.outgoing)
    (trafficLeft : ∀ packet ∈ toLeft, Traffic left.expectedTestRequestId
      right.expectedTestRequestId packet.payload)
    (trafficRight : ∀ packet ∈ toRight, Traffic right.expectedTestRequestId
      left.expectedTestRequestId packet.payload)
    (unconfirmed : Unconfirmed left.state ∧ Unconfirmed right.state)
    (answering : Answering toLeft toRight ∧ Answering toRight toLeft)
    (fits : left.outgoing + (weight toLeft + weight toRight) < 2147483648 ∧
      right.outgoing + (weight toLeft + weight toRight) < 2147483648) :
    Settles (facing left right toLeft toRight) := by
  apply Settled.settles
  · refine ⟨?_, ?_, ?_, ?_⟩
    · intro side
      cases side with
      | left => exact numbered.1
      | right => exact numbered.2
    · intro side
      cases side with
      | left => exact .inr seen.1
      | right => exact .inr seen.2
    · intro side
      cases side with
      | left => exact trafficLeft
      | right => exact trafficRight
    · intro side
      cases side with
      | left => exact .inr ⟨unconfirmed.1, answering.1⟩
      | right => exact .inr ⟨unconfirmed.2, answering.2⟩
  · intro side
    cases side with
    | left => exact fits.1
    | right => exact fits.2

theorem asked_settles {answering asking : SessionOptions} {number expected last : Nat}
    (immediate : answering.testRequestDelay = 0)
    (plain : asking.useNextExpectedMsgSeqNum = false) (missed : expected < last)
    (farNumber : number + 8 < 2147483648) (farLast : last + 8 < 2147483648) :
    Settles (facing
      ⟨answering, .loggingOn, true, some 0, 1, number, last + 2, 0, 0⟩
      ⟨asking, .resending, true, none, 0, expected, number + 1, expected, last⟩
      [⟨number, .resendRequest expected last⟩] [⟨last + 1, .testRequest 0⟩]) := by
  obtain ⟨target, targetEq⟩ : ∃ target, target = max last (last + 1) := ⟨_, rfl⟩
  have fills : Peer.receive ⟨number, .resendRequest expected last⟩
      ⟨answering, .loggingOn, true, some 0, 1, number, last + 2, 0, 0⟩ =
      some ((), ⟨answering, .loggingOn, true, some 1, 2, number + 1, last + 3, 0, 0⟩,
        [⟨expected, .gapFill (last + 2)⟩, ⟨last + 2, .testRequest 1⟩]) :=
    @Peer.receive_resendRequest
      ⟨answering, .loggingOn, true, some 0, 1, number, last + 2, 0, 0⟩ expected last
      (Peer.admits_of_logonReceived _ (.inr rfl)) immediate
      (fitsWire_of_lt (by omega)) (fitsWire_of_lt (show last + 2 < _ by omega))
  have drops : Peer.receive ⟨last + 1, .testRequest 0⟩
      ⟨asking, .resending, true, none, 0, expected, number + 1, expected, last⟩ =
      some ((), ⟨asking, .resending, true, none, 0, expected, number + 1, expected,
        target⟩, []) := by
    rw [targetEq]
    exact Peer.receive_early (Peer.admits_of_logonReceived _ (.inr rfl)) rfl rfl
      (show expected < last + 1 by omega) rfl
  have completes : Peer.receive ⟨expected, .gapFill (last + 2)⟩
      ⟨asking, .resending, true, none, 0, expected, number + 1, expected, target⟩ =
      some ((), ⟨asking, .resending, true, some 0, 1, last + 2, number + 2, last + 2,
        target⟩, [⟨number + 1, .testRequest 0⟩]) :=
    @Peer.receive_gapFill_recovering
      ⟨asking, .resending, true, none, 0, expected, number + 1, expected, target⟩
      (last + 2) (Peer.admits_of_logonReceived _ (.inr rfl))
      (show expected < last + 2 by omega) plain rfl (show target ≤ last + 2 by omega)
      (fitsWire_of_lt (show number + 1 < _ by omega))
  have answers : Peer.receive ⟨last + 2, .testRequest 1⟩
      ⟨asking, .resending, true, some 0, 1, last + 2, number + 2, last + 2, target⟩ =
      some ((), ⟨asking, .resending, true, some 0, 1, last + 3, number + 3, last + 2,
        target⟩, [⟨number + 2, .heartbeat (some 1)⟩]) :=
    @Peer.receive_testRequest
      ⟨asking, .resending, true, some 0, 1, last + 2, number + 2, last + 2, target⟩ 1
      (Peer.admits_of_logonReceived _ (.inr rfl))
      (fitsWire_of_lt (show number + 2 < _ by omega))
  apply Ends.deliver_left fills
  apply Ends.deliver_right drops
  apply Ends.deliver_right completes
  apply Ends.deliver_right answers
  refine settles_of_traffic ⟨rfl, rfl⟩ ⟨⟨rfl, rfl, rfl⟩, rfl⟩ ?_ ?_ ?_ ?_ ?_
  · simp
  · simp
  · exact ⟨.inl rfl, .inr (.inr rfl)⟩
  · exact ⟨.inl ⟨_, List.mem_cons_of_mem _ List.mem_cons_self, _, rfl⟩,
      .inr ⟨_, List.mem_cons_self, _, rfl⟩⟩
  · exact ⟨show last + 3 + (3 + 0) < 2147483648 by omega,
      show number + 3 + (3 + 0) < 2147483648 by omega⟩

/-! ### Plain Logons -/

def caller (options : SessionOptions) (announces : Bool) : SessionOptions :=
  { options with
    logonBehaviour := .initiator
    testRequestDelay := 0
    useNextExpectedMsgSeqNum := announces }

def callee (options : SessionOptions) (announces : Bool) : SessionOptions :=
  { options with
    logonBehaviour := .acceptor
    testRequestDelay := 0
    useNextExpectedMsgSeqNum := announces }

def waiting (options : SessionOptions) (incoming outgoing : Nat) : Peer where
  options
  state := .loggingOn
  logonReceived := false
  expectedTestRequestId := none
  nextTestRequestId := 0
  incoming
  outgoing
  resent := 0
  target := 0

section Plain

variable {initiator acceptor : SessionOptions} {sent received expected : Nat}

theorem acceptor_recovers (missed : expected < sent)
    (small : fitsWire initiator.heartbeatInterval.toNat)
    (farSent : sent + 16 < 2147483648) (farReceived : received + 16 < 2147483648) :
    Settles (facing (waiting (caller initiator false) received (sent + 1))
      (waiting (callee acceptor false) expected received) []
      [⟨sent, .logon false initiator.heartbeatInterval none⟩]) := by
  obtain ⟨acceptor', acceptorEq⟩ : ∃ acceptor' : SessionOptions, acceptor' =
      { acceptor with heartbeatInterval := initiator.heartbeatInterval } := ⟨_, rfl⟩
  have asks : Peer.receive ⟨sent, .logon false initiator.heartbeatInterval none⟩
      (waiting (callee acceptor false) expected received) =
      some ((), ⟨callee acceptor' false, .resending, true, none, 0, expected,
        received + 2, expected, sent⟩,
        [⟨received, .logon false initiator.heartbeatInterval none⟩,
          ⟨received + 1, .resendRequest expected sent⟩]) := by
    rw [acceptorEq]
    exact Peer.receive_logon_high rfl missed nofun small
      (fitsWire_of_lt (show received + 1 < _ by omega)) (fitsWire_of_lt (by omega))
  have takesLogon : Peer.receive ⟨received, .logon false initiator.heartbeatInterval none⟩
      (waiting (caller initiator false) received (sent + 1)) =
      some ((), ⟨caller initiator false, .loggingOn, true, some 0, 1, received + 1,
        sent + 2, 0, 0⟩, [⟨sent + 1, .testRequest 0⟩]) :=
    @Peer.receive_logon_agreed (waiting (caller initiator false) received (sent + 1))
      initiator.heartbeatInterval sent ⟨Nat.le_succ _, Nat.le_refl _⟩ rfl small
      (fitsWire_of_lt (show sent + 2 < _ by omega)) (fitsWire_of_lt (show received < _ by omega))
  apply Ends.deliver_right asks
  apply Ends.deliver_left takesLogon
  exact asked_settles rfl rfl missed (by omega) (by omega)

theorem initiator_recovers (missed : expected < sent)
    (small : fitsWire initiator.heartbeatInterval.toNat)
    (farSent : sent + 16 < 2147483648) (farReceived : received + 16 < 2147483648) :
    Settles (facing (waiting (caller initiator false) expected (received + 1))
      (waiting (callee acceptor false) received sent) []
      [⟨received, .logon false initiator.heartbeatInterval none⟩]) := by
  obtain ⟨acceptor', acceptorEq⟩ : ∃ acceptor' : SessionOptions, acceptor' =
      { acceptor with heartbeatInterval := initiator.heartbeatInterval } := ⟨_, rfl⟩
  have takesLogon : Peer.receive
      ⟨received, .logon false initiator.heartbeatInterval none⟩
      (waiting (callee acceptor false) received sent) =
      some ((), ⟨callee acceptor' false, .loggingOn, true, some 0, 1, received + 1,
        sent + 2, 0, 0⟩,
        [⟨sent, .logon false initiator.heartbeatInterval none⟩,
          ⟨sent + 1, .testRequest 0⟩]) := by
    rw [acceptorEq]
    exact @Peer.receive_logon_agreed (waiting (callee acceptor false) received sent)
      initiator.heartbeatInterval sent ⟨Nat.le_refl _, Nat.le_succ _⟩ rfl small
      (fitsWire_of_lt (show sent + 1 < _ by omega))
      (fitsWire_of_lt (show received < _ by omega))
  have asks : Peer.receive ⟨sent, .logon false initiator.heartbeatInterval none⟩
      (waiting (caller initiator false) expected (received + 1)) =
      some ((), ⟨caller initiator false, .resending, true, none, 0, expected,
        received + 2, expected, sent⟩,
        [⟨received + 1, .resendRequest expected sent⟩]) :=
    Peer.receive_logon_high rfl missed nofun small
      (fitsWire_of_lt (show received + 2 < _ by omega)) (fitsWire_of_lt (by omega))
  apply Ends.deliver_right takesLogon
  apply Ends.deliver_left asks
  apply Settles.swap
  exact asked_settles rfl rfl missed (by omega) (by omega)

theorem neither_missed (small : fitsWire initiator.heartbeatInterval.toNat)
    (farSent : sent + 16 < 2147483648) (farReceived : received + 16 < 2147483648) :
    Settles (facing (waiting (caller initiator false) received (sent + 1))
      (waiting (callee acceptor false) sent received) []
      [⟨sent, .logon false initiator.heartbeatInterval none⟩]) := by
  obtain ⟨acceptor', acceptorEq⟩ : ∃ acceptor' : SessionOptions, acceptor' =
      { acceptor with heartbeatInterval := initiator.heartbeatInterval } := ⟨_, rfl⟩
  have answers : Peer.receive ⟨sent, .logon false initiator.heartbeatInterval none⟩
      (waiting (callee acceptor false) sent received) =
      some ((), ⟨callee acceptor' false, .loggingOn, true, some 0, 1, sent + 1,
        received + 2, 0, 0⟩,
        [⟨received, .logon false initiator.heartbeatInterval none⟩,
          ⟨received + 1, .testRequest 0⟩]) := by
    rw [acceptorEq]
    exact @Peer.receive_logon_agreed (waiting (callee acceptor false) sent received)
      initiator.heartbeatInterval received ⟨Nat.le_refl _, Nat.le_succ _⟩ rfl small
      (fitsWire_of_lt (show received + 1 < _ by omega))
      (fitsWire_of_lt (show sent < _ by omega))
  have takesLogon : Peer.receive ⟨received, .logon false initiator.heartbeatInterval none⟩
      (waiting (caller initiator false) received (sent + 1)) =
      some ((), ⟨caller initiator false, .loggingOn, true, some 0, 1, received + 1,
        sent + 2, 0, 0⟩, [⟨sent + 1, .testRequest 0⟩]) :=
    @Peer.receive_logon_agreed (waiting (caller initiator false) received (sent + 1))
      initiator.heartbeatInterval sent ⟨Nat.le_succ _, Nat.le_refl _⟩ rfl small
      (fitsWire_of_lt (show sent + 2 < _ by omega))
      (fitsWire_of_lt (show received < _ by omega))
  apply Ends.deliver_right answers
  apply Ends.deliver_left takesLogon
  refine settles_of_traffic ⟨rfl, rfl⟩ ⟨⟨rfl, rfl⟩, rfl, rfl⟩ ?_ ?_ ?_ ?_ ?_
  · simp
  · simp
  · exact ⟨.inl rfl, .inl rfl⟩
  · exact ⟨.inr ⟨_, List.mem_cons_self, _, rfl⟩, .inr ⟨_, List.mem_cons_self, _, rfl⟩⟩
  · exact ⟨show sent + 2 + (2 + 2) < 2147483648 by omega,
      show received + 2 + (2 + 2) < 2147483648 by omega⟩

/-- Both sides have missed messages: each drops the other's ResendRequest. -/
theorem both_missed {expectedLeft expectedRight : Nat} (missedLeft : expectedLeft < received)
    (missedRight : expectedRight < sent)
    (small : fitsWire initiator.heartbeatInterval.toNat)
    (farSent : sent + 16 < 2147483648) (farReceived : received + 16 < 2147483648) :
    Ends (fun last => (last.state .left).state = .resending)
      (facing (waiting (caller initiator false) expectedLeft (sent + 1))
        (waiting (callee acceptor false) expectedRight received) []
        [⟨sent, .logon false initiator.heartbeatInterval none⟩]) := by
  obtain ⟨acceptor', acceptorEq⟩ : ∃ acceptor' : SessionOptions, acceptor' =
      { acceptor with heartbeatInterval := initiator.heartbeatInterval } := ⟨_, rfl⟩
  have asks : Peer.receive ⟨sent, .logon false initiator.heartbeatInterval none⟩
      (waiting (callee acceptor false) expectedRight received) =
      some ((), ⟨callee acceptor' false, .resending, true, none, 0, expectedRight,
        received + 2, expectedRight, sent⟩,
        [⟨received, .logon false initiator.heartbeatInterval none⟩,
          ⟨received + 1, .resendRequest expectedRight sent⟩]) := by
    rw [acceptorEq]
    exact Peer.receive_logon_high rfl missedRight nofun small
      (fitsWire_of_lt (show received + 1 < _ by omega)) (fitsWire_of_lt (by omega))
  have asksToo : Peer.receive ⟨received, .logon false initiator.heartbeatInterval none⟩
      (waiting (caller initiator false) expectedLeft (sent + 1)) =
      some ((), ⟨caller initiator false, .resending, true, none, 0, expectedLeft,
        sent + 2, expectedLeft, received⟩,
        [⟨sent + 1, .resendRequest expectedLeft received⟩]) :=
    Peer.receive_logon_high rfl missedLeft nofun small
      (fitsWire_of_lt (show sent + 2 < _ by omega)) (fitsWire_of_lt (by omega))
  have drops : Peer.receive ⟨received + 1, .resendRequest expectedRight sent⟩
      ⟨caller initiator false, .resending, true, none, 0, expectedLeft, sent + 2,
        expectedLeft, received⟩ =
      some ((), ⟨caller initiator false, .resending, true, none, 0, expectedLeft,
        sent + 2, expectedLeft, max received (received + 1)⟩, []) :=
    Peer.receive_early rfl rfl rfl (show expectedLeft < received + 1 by omega) rfl
  have dropsToo : Peer.receive ⟨sent + 1, .resendRequest expectedLeft received⟩
      ⟨callee acceptor' false, .resending, true, none, 0, expectedRight, received + 2,
        expectedRight, sent⟩ =
      some ((), ⟨callee acceptor' false, .resending, true, none, 0, expectedRight,
        received + 2, expectedRight, max sent (sent + 1)⟩, []) :=
    Peer.receive_early rfl rfl rfl (show expectedRight < sent + 1 by omega) rfl
  apply Ends.deliver_right asks
  apply Ends.deliver_left asksToo
  apply Ends.deliver_left drops
  apply Ends.deliver_right dropsToo
  refine ⟨0, _, .rest _, ?_, rfl⟩
  intro side
  cases side with
  | left => rfl
  | right => rfl

end Plain

/-! ### Logons that announce the number expected next -/

section Announcing

variable {initiator acceptor : SessionOptions} {called answered : Nat}

theorem taken_settles {left right : Peer} (seen : left.logonReceived ∧ right.logonReceived)
    (unconfirmed : Unconfirmed left.state ∧ Unconfirmed right.state)
    (expects : right.expectedTestRequestId = some 0 ∧ left.expectedTestRequestId = some 0)
    (agrees : left.incoming = right.outgoing ∧ left.outgoing = right.incoming + 2)
    (far : left.outgoing + 8 < 2147483648 ∧ right.outgoing + 8 < 2147483648) :
    Settles (facing left right [] [⟨right.incoming, .testRequest 0⟩,
      ⟨right.incoming + 1, .heartbeat (some 0)⟩]) := by
  refine settles_of_traffic seen ⟨agrees.1, rfl, rfl, agrees.2.symm⟩ ?_ ?_ unconfirmed ?_ ?_
  · simp
  · simp [expects]
  · exact ⟨.inr ⟨_, List.mem_cons_self, _, rfl⟩,
      .inl ⟨_, List.mem_cons_of_mem _ List.mem_cons_self, _, rfl⟩⟩
  · exact ⟨show left.outgoing + (0 + 3) < 2147483648 by omega,
      show right.outgoing + (0 + 3) < 2147483648 by omega⟩

/-- A gap fill that comes after the Logon is rejected: its packets are no longer
expected. -/
theorem filled_settles {left right : SessionOptions} {stateLeft stateRight : SessionState}
    {resent : Nat} (expected : Nat)
    (unconfirmed : Unconfirmed stateLeft ∧ Unconfirmed stateRight)
    (farCalled : called + 16 < 2147483648) (farAnswered : answered + 16 < 2147483648) :
    Settles (facing
      ⟨left, stateLeft, true, some 0, 1, answered + 2, called + 3, resent, 0⟩
      ⟨right, stateRight, true, some 0, 1, called + 1, answered + 2, 0, 0⟩ []
      (((if expected + 1 < called + 1 then [⟨expected, .gapFill (called + 1)⟩] else []) ++
        [⟨called + 1, .testRequest 0⟩]) ++ [⟨called + 2, .heartbeat (some 0)⟩])) := by
  split
  · have rejects : Peer.receive ⟨expected, .gapFill (called + 1)⟩
        ⟨right, stateRight, true, some 0, 1, called + 1, answered + 2, 0, 0⟩ =
        some ((), ⟨right, stateRight, true, some 0, 1, called + 1, answered + 3, 0, 0⟩,
          [⟨answered + 2, .reject⟩]) :=
      Peer.receive_gapFill_low (Peer.admits_of_logonReceived _ (.inr rfl)) (Nat.le_refl _)
        (fitsWire_of_lt (show answered + 2 < _ by omega))
    have ignores : Peer.receive ⟨answered + 2, .reject⟩
        ⟨left, stateLeft, true, some 0, 1, answered + 2, called + 3, resent, 0⟩ =
        some ((), ⟨left, stateLeft, true, some 0, 1, answered + 3, called + 3, resent, 0⟩,
          []) :=
      @Peer.receive_reject
        ⟨left, stateLeft, true, some 0, 1, answered + 2, called + 3, resent, 0⟩
        (Peer.admits_of_logonReceived _ (.inr rfl))
    apply Ends.deliver_right rejects
    apply Ends.deliver_left ignores
    exact taken_settles ⟨rfl, rfl⟩ unconfirmed ⟨rfl, rfl⟩ ⟨rfl, rfl⟩
      ⟨show called + 3 + 8 < 2147483648 by omega, show answered + 3 + 8 < 2147483648 by omega⟩
  · exact taken_settles ⟨rfl, rfl⟩ unconfirmed ⟨rfl, rfl⟩ ⟨rfl, rfl⟩
      ⟨show called + 3 + 8 < 2147483648 by omega, show answered + 2 + 8 < 2147483648 by omega⟩

theorem unconfirmed_ite (condition : Prop) [Decidable condition] :
    Unconfirmed (if condition then .resending else .loggingOn) := by
  split
  · exact .inr (.inr rfl)
  · exact .inl rfl

theorem answered_settles {right : SessionOptions} {stateRight : SessionState}
    {heartBtInt : UInt32} {incoming resent expected : Nat}
    (unconfirmed : Unconfirmed stateRight) (small : fitsWire heartBtInt.toNat)
    (within : incoming ≤ answered) (sent : expected ≤ called + 1)
    (farCalled : called + 16 < 2147483648) (farAnswered : answered + 16 < 2147483648) :
    Settles (facing
      ⟨caller initiator true, .loggingOn, false, none, 0, incoming, called + 1, resent, 0⟩
      ⟨right, stateRight, true, some 0, 1, called + 1, answered + 2, 0, 0⟩
      [⟨answered, .logon false heartBtInt (some expected)⟩, ⟨answered + 1, .testRequest 0⟩]
      []) := by
  obtain ⟨options, optionsEq⟩ : ∃ options : SessionOptions, options =
      { caller initiator true with heartbeatInterval := heartBtInt } := ⟨_, rfl⟩
  obtain ⟨state, stateEq⟩ : ∃ state : SessionState, state =
      if expected + 1 < called + 1 then .resending else .loggingOn := ⟨_, rfl⟩
  have takes : Peer.receive ⟨answered, .logon false heartBtInt (some expected)⟩
      ⟨caller initiator true, .loggingOn, false, none, 0, incoming, called + 1, resent, 0⟩ =
      some ((), ⟨options, state, true, some 0, 1, answered + 1, called + 2, resent, 0⟩,
        (if expected + 1 < called + 1 then [⟨expected, .gapFill (called + 1)⟩] else []) ++
          [⟨called + 1, .testRequest 0⟩]) := by
    rw [optionsEq, stateEq]
    exact Peer.receive_logon_announced rfl sent rfl small
      (fitsWire_of_lt (show called + 2 < _ by omega))
      (fitsWire_of_lt (show incoming < _ by omega))
  have answers : Peer.receive ⟨answered + 1, .testRequest 0⟩
      ⟨options, state, true, some 0, 1, answered + 1, called + 2, resent, 0⟩ =
      some ((), ⟨options, state, true, some 0, 1, answered + 2, called + 3, resent, 0⟩,
        [⟨called + 2, .heartbeat (some 0)⟩]) :=
    @Peer.receive_testRequest
      ⟨options, state, true, some 0, 1, answered + 1, called + 2, resent, 0⟩ 0
      (Peer.admits_of_logonReceived _ (.inr rfl))
      (fitsWire_of_lt (show called + 2 < _ by omega))
  apply Ends.deliver_left takes
  apply Ends.deliver_left answers
  apply filled_settles _ _ farCalled farAnswered
  rw [stateEq]
  exact ⟨unconfirmed_ite _, unconfirmed⟩

theorem announced_recovers {incoming expected : Nat} (within : incoming ≤ answered)
    (sent : expected ≤ called) (small : fitsWire initiator.heartbeatInterval.toNat)
    (farCalled : called + 16 < 2147483648) (farAnswered : answered + 16 < 2147483648) :
    Settles (facing (waiting (caller initiator true) incoming (called + 1))
      (waiting (callee acceptor true) expected answered) []
      [⟨called, .logon false initiator.heartbeatInterval (some incoming)⟩]) := by
  obtain ⟨options, optionsEq⟩ : ∃ options : SessionOptions, options =
      { callee acceptor true with heartbeatInterval := initiator.heartbeatInterval } :=
    ⟨_, rfl⟩
  obtain ⟨state, stateEq⟩ : ∃ state : SessionState, state =
      if incoming + 1 < answered then .resending else .loggingOn := ⟨_, rfl⟩
  have unconfirmed : Unconfirmed state := by
    rw [stateEq]
    exact unconfirmed_ite _
  have takes : Peer.receive
      ⟨called, .logon false initiator.heartbeatInterval (some incoming)⟩
      (waiting (callee acceptor true) expected answered) =
      some ((), ⟨options, state, true, some 0, 1, called + 1, answered + 2, 0, 0⟩,
        (if incoming + 1 < answered then [⟨incoming, .gapFill answered⟩] else []) ++
          [⟨answered, .logon false initiator.heartbeatInterval (some expected)⟩,
            ⟨answered + 1, .testRequest 0⟩]) := by
    rw [optionsEq, stateEq]
    exact Peer.receive_logon_announced rfl within rfl small
      (fitsWire_of_lt (show answered + 1 < _ by omega))
      (fitsWire_of_lt (show expected < _ by omega))
  apply Ends.deliver_right takes
  split
  · next missed =>
      have fills : Peer.receive ⟨incoming, .gapFill answered⟩
          (waiting (caller initiator true) incoming (called + 1)) =
          some ((), ⟨caller initiator true, .loggingOn, false, none, 0, answered,
            called + 1, answered, 0⟩, []) :=
        @Peer.receive_gapFill_loggingOn
          (waiting (caller initiator true) incoming (called + 1)) answered rfl
          (show incoming < answered by omega) rfl rfl
      apply Ends.deliver_left fills
      exact answered_settles unconfirmed small (Nat.le_refl _) (by omega) farCalled
        farAnswered
  · exact answered_settles unconfirmed small within (by omega) farCalled farAnswered

end Announcing

/-! ### The sessions -/

theorem caller_eq {initiator acceptor : SessionOptions}
    (matching : Matching initiator acceptor) :
    caller initiator initiator.useNextExpectedMsgSeqNum = initiator := by
  unfold caller
  rw [← matching.initiates, ← matching.initiatorDelay]

theorem callee_eq {initiator acceptor : SessionOptions}
    (matching : Matching initiator acceptor) :
    callee acceptor initiator.useNextExpectedMsgSeqNum = acceptor := by
  unfold callee
  rw [← matching.accepts, ← matching.acceptorDelay, ← matching.nextExpected]

/-- Nothing is on its way, both sides are logged on, and their numbers agree. -/
structure Recovered (pair : Pair) : Prop where
  loggedOn : ∀ side, (pair.state side).state = .loggedOn
  agrees : ∀ side, (pair.state side).incomingMsgSeqNum =
    (pair.state side.other).outgoingMsgSeqNum

theorem opened_settles {initiator acceptor : SessionOptions}
    (matching : Matching initiator acceptor)
    {expectedLeft expectedRight toLeft toRight : Nat} (withinLeft : expectedLeft ≤ toLeft)
    (withinRight : expectedRight ≤ toRight)
    (recoverable : initiator.useNextExpectedMsgSeqNum ∨ expectedLeft = toLeft ∨
      expectedRight = toRight)
    (small : fitsWire initiator.heartbeatInterval.toNat)
    (farLeft : toLeft + 16 < 2147483648) (farRight : toRight + 16 < 2147483648) :
    Settles (facing (waiting initiator expectedLeft (toRight + 1))
      (waiting acceptor expectedRight toLeft) []
      [⟨toRight, .logon false initiator.heartbeatInterval
        (if initiator.useNextExpectedMsgSeqNum then some expectedLeft else none)⟩]) := by
  have left := caller_eq matching
  have right := callee_eq matching
  cases announces : initiator.useNextExpectedMsgSeqNum with
  | true =>
      rw [announces] at left right
      rw [← left, ← right]
      exact announced_recovers withinLeft withinRight small farRight farLeft
  | false =>
      rw [announces] at left right recoverable
      rw [← left, ← right]
      rcases Nat.eq_or_lt_of_le withinLeft with same | missed
      · rw [same]
        rcases Nat.eq_or_lt_of_le withinRight with sameRight | missed
        · rw [sameRight]
          exact neither_missed small farRight farLeft
        · exact acceptor_recovers missed small farRight farLeft
      · rcases recoverable with absurd | same | same
        · cases absurd
        · omega
        · rw [same]
          exact initiator_recovers missed small farLeft farRight

theorem opened_stuck {initiator acceptor : SessionOptions}
    (matching : Matching initiator acceptor)
    (announces : initiator.useNextExpectedMsgSeqNum = false)
    {expectedLeft expectedRight toLeft toRight : Nat} (missedLeft : expectedLeft < toLeft)
    (missedRight : expectedRight < toRight)
    (small : fitsWire initiator.heartbeatInterval.toNat)
    (farLeft : toLeft + 16 < 2147483648) (farRight : toRight + 16 < 2147483648) :
    Ends (fun last => (last.state .left).state = .resending)
      (facing (waiting initiator expectedLeft (toRight + 1))
        (waiting acceptor expectedRight toLeft) []
        [⟨toRight, .logon false initiator.heartbeatInterval
          (if initiator.useNextExpectedMsgSeqNum then some expectedLeft else none)⟩]) := by
  have left := caller_eq matching
  have right := callee_eq matching
  rw [announces] at left right ⊢
  rw [← left, ← right]
  exact both_missed missedLeft missedRight small farRight farLeft

theorem recovered_of_follows {identities : Side → Identity} {pair : Pair} {model : Model}
    (follows : Follows identities pair model) (quiet : model.Quiet)
    (settled : Settled model) : Recovered pair where
  loggedOn side := by
    have loggedOn := settled.loggedOn quiet side
    rw [← (follows.state side).1] at loggedOn
    exact loggedOn
  agrees side := by
    have numbered := settled.consecutive side
    rw [quiet side, ← (follows.state side).1, ← (follows.state side.other).1] at numbered
    exact UInt32.toNat_inj.mp numbered

/-- However the messages are delivered, the sessions recover, unless both have
missed messages and they announce nothing. -/
theorem quiet_recovered_iff {worlds : Side → World}
    (accepts : ∀ side, (worlds side).Accepts) (explains : ∀ side, (worlds side).Explains)
    {initiator acceptor : SessionOptions} (matching : Matching initiator acceptor)
    {expectedLeft expectedRight toLeft toRight : UInt32} (withinLeft : expectedLeft ≤ toLeft)
    (withinRight : expectedRight ≤ toRight)
    (small : initiator.heartbeatInterval.toNat < 2147483648)
    (farLeft : toLeft.toNat + 16 < 2147483648) (farRight : toRight.toNat + 16 < 2147483648)
    {start : Pair}
    (opening : opened worlds (Session.create initiator expectedLeft toRight)
      (Session.create acceptor expectedRight toLeft) = some start) :
    (∀ count pair, Delivers (receive worlds) count start pair → pair.Quiet →
      Recovered pair) ↔
    (initiator.useNextExpectedMsgSeqNum ∨ expectedLeft = toLeft ∨
      expectedRight = toRight) := by
  have mirrors (side : Side) (message : Message) (packet : Packet)
      (presents : PresentsTo (identities initiator acceptor) side message packet) :=
    receive_mirrors accepts matching.mirrored presents fun _ => explains side
  obtain ⟨called, calls, answers⟩ :=
    @opened_facing (Session.create initiator expectedLeft toRight).peer
      (Session.create acceptor expectedRight toLeft).peer matching ⟨rfl, rfl⟩
      (fitsWire_of_lt small) (fitsWire_of_lt (show toRight.toNat < _ by omega))
      (fitsWire_of_lt (Nat.lt_of_le_of_lt (UInt32.le_iff_toNat_le.mp withinLeft)
        (by omega)))
  have left : (Session.create initiator expectedLeft toRight).options.identity =
      identities initiator acceptor .left := rfl
  have right : (Session.create acceptor expectedRight toLeft).options.identity =
      identities initiator acceptor .right := rfl
  obtain ⟨reached, openedTo, follows⟩ := opened_follows accepts left right calls answers
  rw [opening] at openedTo
  cases openedTo
  constructor
  · intro recovers
    by_contra unrecoverable
    obtain ⟨plain, caughtUp⟩ := not_or.mp unrecoverable
    obtain ⟨missedLeft, missedRight⟩ := not_or.mp caughtUp
    have announces : initiator.useNextExpectedMsgSeqNum = false :=
      Bool.eq_false_iff.mpr plain
    have stuck := opened_stuck matching announces
      (UInt32.lt_iff_toNat_lt.mp (UInt32.lt_of_le_of_ne withinLeft missedLeft))
      (UInt32.lt_iff_toNat_lt.mp (UInt32.lt_of_le_of_ne withinRight missedRight))
      (fitsWire_of_lt small) farLeft farRight
    obtain ⟨total, last, run, rests, resending⟩ := stuck
    obtain ⟨pair, reaches, followed⟩ := follows.run mirrors run
    have quiet : pair.Quiet := by
      intro side
      have related := followed.channel side
      rw [rests side] at related
      exact List.forall₂_nil_right_iff.mp related
    have loggedOn := (recovers total pair reaches quiet).loggedOn .left
    rw [← (followed.state .left).1] at resending
    cases resending.symm.trans loggedOn
  · intro recoverable count pair reaches quiet
    have settles := opened_settles matching (UInt32.le_iff_toNat_le.mp withinLeft)
      (UInt32.le_iff_toNat_le.mp withinRight)
      (recoverable.imp_right fun same => same.imp (congrArg _) (congrArg _))
      (fitsWire_of_lt small) farLeft farRight
    obtain ⟨total, last, run, rests, settled⟩ := settles
    obtain ⟨middle, fewer, followed, -, remaining⟩ := follows.delivers mirrors run rests
      reaches
    have same := remaining.eq_of_quiet (followed.quiet quiet)
    rw [same] at followed
    exact recovered_of_follows followed rests settled

def delivering (worlds : Side → World) (pair : Pair) : List Side → Option Pair
  | [] => some pair
  | side :: rest =>
      (pair.deliver (receive worlds) side).bind fun after => delivering worlds after rest

theorem delivers_delivering {worlds : Side → World} {pair after : Pair} {sides : List Side}
    (run : delivering worlds pair sides = some after) :
    ∃ count, Delivers (receive worlds) count pair after := by
  induction sides generalizing pair with
  | nil =>
      cases run
      exact ⟨0, .rest _⟩
  | cons side rest ih =>
      obtain ⟨middle, delivered, others⟩ := Option.bind_eq_some_iff.mp run
      obtain ⟨count, later⟩ := ih others
      exact ⟨count + 1, .next side delivered later⟩

theorem exists_delivering {worlds : Side → World} {initiator acceptor : Session}
    {sides : List Side} {α : Type} {measure : Pair → α} {value : α}
    (computed : ((opened worlds initiator acceptor).bind fun start =>
      (delivering worlds start sides).map measure) = some value) :
    ∃ start pair, opened worlds initiator acceptor = some start ∧
      (∃ count, Delivers (receive worlds) count start pair) ∧ measure pair = value := by
  obtain ⟨start, opening, others⟩ := Option.bind_eq_some_iff.mp computed
  obtain ⟨pair, run, measured⟩ := Option.map_eq_some_iff.mp others
  exact ⟨start, pair, opening, delivers_delivering run, measured⟩

/-- Both sessions have missed five messages, and all ends in two sessions that
wait for each other. -/
theorem both_missed_stuck : ∃ start pair,
    opened (fun _ => .plain) (Session.create sampleInitiator 7 17)
      (Session.create sampleAcceptor 12 12) = some start ∧
    (∃ count, Delivers (receive fun _ => .plain) count start pair) ∧ pair.Quiet ∧
    (pair.state .left).state = .resending ∧ (pair.state .right).state = .resending ∧
    (pair.state .left).incomingMsgSeqNum = 7 ∧
    (pair.state .right).outgoingMsgSeqNum = 14 := by
  have computed : ((opened (fun _ => .plain) (Session.create sampleInitiator 7 17)
      (Session.create sampleAcceptor 12 12)).bind fun start =>
        (delivering (fun _ => .plain) start [.right, .left, .left, .right]).map
          fun pair => ((pair.channel .left, pair.channel .right),
            ((pair.state .left).state, (pair.state .right).state),
            (pair.state .left).incomingMsgSeqNum,
            (pair.state .right).outgoingMsgSeqNum)) =
      some (([], []), (.resending, .resending), 7, 14) := by
    decide +kernel
  obtain ⟨start, pair, opening, reaches, measured⟩ := exists_delivering computed
  simp only [Prod.mk.injEq] at measured
  obtain ⟨⟨toLeft, toRight⟩, states, incoming, outgoing⟩ := measured
  refine ⟨start, pair, opening, reaches, ?_, states.1, states.2, incoming, outgoing⟩
  intro side
  cases side with
  | left => exact toLeft
  | right => exact toRight

def explainingWorld : World :=
  { World.plain with
    orchestration := {
      fieldOffsets := (List.range 374).map fun tag => UInt16.ofNat (tag / 373)
      fields := [⟨0, false⟩, ⟨373, false⟩]
      nonempty := by simp
      enoughOffsets := by simp
      representable := by decide } }

theorem explainingWorld_explains : explainingWorld.Explains := by
  refine ⟨true, ?_⟩
  decide +kernel

/-- Both sessions have missed five messages, and each announces what it expects. -/
theorem quiet_recovered_announced : ∃ start,
    opened (fun _ => explainingWorld)
      (Session.create { sampleInitiator with useNextExpectedMsgSeqNum := true } 7 17)
      (Session.create { sampleAcceptor with useNextExpectedMsgSeqNum := true } 12 12) =
        some start ∧
    ∀ count pair, Delivers (receive fun _ => explainingWorld) count start pair → pair.Quiet →
      Recovered pair := by
  have computed : ((opened (fun _ => explainingWorld)
      (Session.create { sampleInitiator with useNextExpectedMsgSeqNum := true } 7 17)
      (Session.create { sampleAcceptor with useNextExpectedMsgSeqNum := true } 12
        12)).isSome) = true := by decide +kernel
  obtain ⟨start, opening⟩ := Option.isSome_iff_exists.mp computed
  have matching : Matching { sampleInitiator with useNextExpectedMsgSeqNum := true }
      { sampleAcceptor with useNextExpectedMsgSeqNum := true } :=
    ⟨rfl, rfl, rfl, rfl, rfl, rfl, rfl, rfl⟩
  refine ⟨start, opening, ?_⟩
  exact (@quiet_recovered_iff (fun _ => explainingWorld) (fun _ _ _ _ => rfl)
    (fun _ => explainingWorld_explains) _ _ matching 7 12 12 17 (by decide) (by decide)
    (by decide) (by decide) (by decide) start opening).mpr (.inl rfl)

end Pair

end Crocofix
