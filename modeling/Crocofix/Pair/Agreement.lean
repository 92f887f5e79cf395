/-
Two sessions whose counters agree stay in agreement.

What is on its way to a side carries the numbers that the side expects, from
the opening on.  Once both sides have answered the other's Logon, only
TestRequests, Heartbeats and application messages are on their way.
-/

import Crocofix.Pair.Settled

namespace Crocofix

open Network (Side Config)

namespace Pair

open Session (World carriedIn)

/-! ### The Logons -/

/-- The initiator's Logon is on its way. -/
structure Calling (model : Model) : Prop where
  matching : Matching (model.state .left).options (model.state .right).options
  small : fitsWire (model.state .left).options.heartbeatInterval.toNat
  waits : ∀ side, (model.state side).state = .loggingOn
  agrees : (model.state .left).incoming = (model.state .right).outgoing
  called : (model.state .left).outgoing = (model.state .right).incoming + 1
  toRight : model.channel .right = [⟨(model.state .right).incoming,
    .logon false (model.state .left).options.heartbeatInterval
      (model.state .left).announced⟩]
  toLeft : model.channel .left = []

/-- The acceptor's Logon is on its way, and its TestRequest. -/
structure Answered (model : Model) : Prop where
  matching : Matching (model.state .left).options (model.state .right).options
  waits : ∀ side, (model.state side).state = .loggingOn
  seen : (model.state .right).logonReceived
  agrees : (model.state .right).incoming = (model.state .left).outgoing
  answered : (model.state .right).outgoing = (model.state .left).incoming + 2
  toRight : model.channel .right = []
  toLeft : ∃ heartBtInt nextExpected testReqID,
    fitsWire heartBtInt.toNat ∧ nextExpected + 1 = (model.state .left).outgoing ∧
      (model.state .right).expectedTestRequestId = some testReqID ∧
      model.channel .left = [⟨(model.state .left).incoming,
        .logon false heartBtInt
          (if (model.state .left).options.useNextExpectedMsgSeqNum then
            some nextExpected else none)⟩,
        ⟨(model.state .left).incoming + 1, .testRequest testReqID⟩]

theorem Calling.consecutive {model : Model} (calling : Calling model) :
    Consecutive model := by
  intro side
  cases side with
  | left =>
      rw [calling.toLeft]
      exact calling.agrees
  | right =>
      rw [calling.toRight]
      exact ⟨rfl, calling.called.symm⟩

theorem Answered.consecutive {model : Model} (answered : Answered model) :
    Consecutive model := by
  intro side
  cases side with
  | left =>
      obtain ⟨_, _, _, -, -, -, toLeft⟩ := answered.toLeft
      rw [toLeft]
      exact ⟨rfl, rfl, answered.answered.symm⟩
  | right =>
      rw [answered.toRight]
      exact answered.agrees

theorem Calling.deliver {model : Model} (calling : Calling model)
    (fits : ∀ side, fitsWire ((model.state side).outgoing + 1)) :
    ∃ after, model.deliver react .right = some after ∧ Answered after := by
  have matching := calling.matching
  have announces : (model.state .left).announced =
      if (model.state .right).options.useNextExpectedMsgSeqNum then
        some (model.state .right).outgoing
      else none := by
    unfold Peer.announced
    rw [matching.nextExpected, calling.agrees]
  have waiting := calling.toRight
  rw [announces] at waiting
  have expects : fitsWire (model.state .right).incoming := by
    apply Peer.fitsWire_of_le (fits .left)
    rw [calling.called]
    omega
  have receives := Peer.receive_logon_agreed ⟨Nat.le_refl _, Nat.le_succ _⟩
    matching.acceptorDelay calling.small (fits .right) expects
  refine ⟨_, deliver_eq waiting receives, ?_⟩
  have replies : ((model.state .right).greeted
      (model.state .left).options.heartbeatInterval).logonReply =
      [⟨(model.state .right).outgoing,
        .logon false (model.state .left).options.heartbeatInterval
          (model.state .right).announced⟩] := if_pos matching.accepts
  have answered : ((model.state .right).greeted
      (model.state .left).options.heartbeatInterval).replied.outgoing =
      (model.state .right).outgoing + 1 := by
    unfold Peer.replied
    rw [replies]
    rfl
  refine ⟨{ matching with }, ?_, rfl, calling.called.symm, ?_, rfl, ?_⟩
  · intro side
    cases side with
    | left => exact calling.waits .left
    | right => exact calling.waits .right
  · change _ + 1 = (model.state .left).incoming + 2
    rw [answered, calling.agrees]
  · refine ⟨(model.state .left).options.heartbeatInterval, (model.state .right).incoming,
      (model.state .right).nextTestRequestId, calling.small, calling.called.symm, rfl, ?_⟩
    change model.channel .left ++ _ = _
    rw [calling.toLeft, replies]
    unfold Peer.announced Peer.testing
    rw [answered, matching.nextExpected, ← calling.agrees]
    rfl

theorem Answered.deliver {model : Model} (answered : Answered model)
    (fits : ∀ side, fitsWire ((model.state side).outgoing + 1)) :
    ∃ after, model.deliver react .left = some after ∧ Settled after := by
  have matching := answered.matching
  obtain ⟨heartBtInt, nextExpected, testReqID, small, next, expected, waiting⟩ :=
    answered.toLeft
  have expects : fitsWire (model.state .left).incoming := by
    apply Peer.fitsWire_of_le (fits .right)
    rw [answered.answered]
    omega
  have agrees : nextExpected ≤ (model.state .left).outgoing ∧
      (model.state .left).outgoing ≤ nextExpected + 1 := by omega
  have receives := Peer.receive_logon_agreed agrees matching.initiatorDelay small
    (fits .left) expects
  refine ⟨_, deliver_eq waiting receives, ?_⟩
  have silent : ((model.state .left).greeted heartBtInt).logonReply = [] := by
    apply if_neg
    intro accepts
    cases matching.initiates.symm.trans accepts
  have outgoing : ((model.state .left).greeted heartBtInt).replied.outgoing =
      (model.state .left).outgoing := by
    unfold Peer.replied
    rw [silent]
    rfl
  obtain ⟨request, requestEq⟩ : ∃ request : Packet, request =
      ((model.state .left).greeted heartBtInt).replied.testing := ⟨_, rfl⟩
  rw [silent, List.nil_append, ← requestEq]
  have requests : request.payload =
      .testRequest (model.state .left).nextTestRequestId := by
    rw [requestEq]
    rfl
  have number : request.number = (model.state .left).outgoing := by
    rw [requestEq]
    exact outgoing
  refine ⟨?_, ?_, ?_, ?_⟩
  · apply answered.consecutive.move
    · exact ⟨rfl, answered.answered.symm⟩
    · refine ⟨number, ?_⟩
      rw [← outgoing]
      rfl
  · intro side
    cases side with
    | left => exact .inl matching.initiates
    | right => exact .inr answered.seen
  · intro side packet member
    cases side with
    | left =>
        rw [List.mem_singleton.mp member]
        exact expected
    | right =>
        change packet ∈ model.channel .right ++ [request] at member
        rw [answered.toRight, List.nil_append] at member
        rw [List.mem_singleton.mp member, requests]
        rfl
  · intro side
    cases side with
    | left =>
        refine .inr ⟨.inl (answered.waits .left), .inr ⟨request, ?_, _, requests⟩⟩
        exact List.mem_append_right _ (List.mem_singleton_self _)
    | right =>
        exact .inr ⟨.inl (answered.waits .right),
          .inr ⟨_, List.mem_singleton_self _, testReqID, rfl⟩⟩

/-! ### Every stage -/

/-- Two sessions whose counters agreed when they were opened. -/
inductive Agreeing (model : Model) : Prop
  | calling (stage : Calling model)
  | answered (stage : Answered model)
  | settled (stage : Settled model)

theorem Agreeing.consecutive {model : Model} (agreeing : Agreeing model) :
    Consecutive model := by
  cases agreeing with
  | calling stage => exact stage.consecutive
  | answered stage => exact stage.consecutive
  | settled stage => exact stage.consecutive

def Ordinary : Payload → Prop
  | .resendRequest _ _ => False
  | .gapFill _ => False
  | .reject => False
  | _ => True

theorem Traffic.ordinary {own others : Option UInt32} {payload : Payload}
    (traffic : Traffic own others payload) : Ordinary payload := by
  cases payload with
  | heartbeat _ | testRequest _ | application | logon _ _ _ => trivial
  | resendRequest _ _ | gapFill _ | reject => exact traffic

theorem Agreeing.ordinary {model : Model} (agreeing : Agreeing model) (side : Side) :
    ∀ packet ∈ model.channel side, Ordinary packet.payload := by
  intro packet member
  cases agreeing with
  | calling stage =>
      cases side with
      | left =>
          rw [stage.toLeft] at member
          cases member
      | right =>
          rw [stage.toRight] at member
          rw [List.mem_singleton.mp member]
          trivial
  | answered stage =>
      cases side with
      | left =>
          obtain ⟨_, _, _, -, -, -, toLeft⟩ := stage.toLeft
          rw [toLeft] at member
          rcases List.mem_cons.mp member with logon | request
          · rw [logon]
            trivial
          · rw [List.mem_singleton.mp request]
            trivial
      | right =>
          rw [stage.toRight] at member
          cases member
  | settled stage => exact (stage.traffic side packet member).ordinary

theorem Agreeing.connected {model : Model} (agreeing : Agreeing model) (side : Side) :
    (model.state side).state ≠ .disconnected := by
  intro disconnected
  cases agreeing with
  | calling stage => cases disconnected.symm.trans (stage.waits side)
  | answered stage => cases disconnected.symm.trans (stage.waits side)
  | settled stage => exact stage.connected side disconnected

theorem Agreeing.loggedOn {model : Model} (agreeing : Agreeing model)
    (quiet : model.Quiet) (side : Side) : (model.state side).state = .loggedOn := by
  cases agreeing with
  | calling stage =>
      have toRight := stage.toRight
      rw [quiet .right] at toRight
      cases toRight
  | answered stage =>
      obtain ⟨_, _, _, -, -, -, toLeft⟩ := stage.toLeft
      rw [quiet .left] at toLeft
      cases toLeft
  | settled stage => exact stage.loggedOn quiet side

def Possible (model : Model) : Move → Prop
  | .deliver side => model.channel side ≠ []
  | .heartbeatTimer _ => True
  | .send side message => (model.state side).state = .loggedOn ∧ Sendable message

theorem defibrillate_waits {model : Model} {side : Side}
    (differs : (model.state side).state ≠ .loggedOn) :
    model.act side Peer.defibrillate.respond = some model := by
  have silent : Peer.defibrillate (model.state side) =
      some ((), model.state side, []) := by
    unfold Peer.defibrillate Reaction.onlyIf
    rw [Reaction.get_bind, if_neg differs]
    rfl
  refine Option.map_eq_some_iff.mpr ⟨(model.state side, []), ?_, Config.move_self ..⟩
  exact Option.map_eq_some_iff.mpr ⟨_, silent, rfl⟩

theorem Agreeing.next {model : Model} {move : Move} (agreeing : Agreeing model)
    (fits : ∀ side, fitsWire ((model.state side).outgoing + 1))
    (possible : Possible model move) :
    ∃ after, model.next move = some after ∧ Agreeing after := by
  have within (side : Side) : fitsWire (model.state side).outgoing :=
    Peer.fitsWire_of_le (fits side) (Nat.le_succ _)
  cases move with
  | deliver side =>
      cases agreeing with
      | calling stage =>
          cases side with
          | left => exact absurd stage.toLeft possible
          | right =>
              obtain ⟨after, delivered, answered⟩ := stage.deliver fits
              exact ⟨after, delivered, .answered answered⟩
      | answered stage =>
          cases side with
          | left =>
              obtain ⟨after, delivered, settled⟩ := stage.deliver fits
              exact ⟨after, delivered, .settled settled⟩
          | right => exact absurd stage.toRight possible
      | settled stage =>
          obtain ⟨packet, rest, waiting⟩ := List.exists_cons_of_ne_nil possible
          obtain ⟨after, delivered, settled, -⟩ := stage.deliver waiting (within side)
          exact ⟨after, delivered, .settled settled⟩
  | heartbeatTimer side =>
      by_cases loggedOn : (model.state side).state = .loggedOn
      · have sends : model.act side Peer.defibrillate.respond =
            model.act side (Peer.send (.heartbeat none)).respond := by
          unfold Config.act Reaction.respond Peer.defibrillate Reaction.onlyIf
          rw [Reaction.get_bind, if_pos loggedOn]
        cases agreeing with
        | calling stage => cases loggedOn.symm.trans (stage.waits side)
        | answered stage => cases loggedOn.symm.trans (stage.waits side)
        | settled stage =>
            obtain ⟨after, sent, settled⟩ := stage.send loggedOn (.inr rfl) (within side)
            exact ⟨after, sends.trans sent, .settled settled⟩
      · exact ⟨model, defibrillate_waits loggedOn, agreeing⟩
  | send side message =>
      obtain ⟨loggedOn, sendable⟩ := possible
      have sends : model.next (.send side message) =
          model.act side (Peer.send .application).respond := if_pos ⟨loggedOn, sendable⟩
      cases agreeing with
      | calling stage => cases loggedOn.symm.trans (stage.waits side)
      | answered stage => cases loggedOn.symm.trans (stage.waits side)
      | settled stage =>
          obtain ⟨after, sent, settled⟩ := stage.send loggedOn (.inl rfl) (within side)
          exact ⟨after, sends.trans sent, .settled settled⟩

theorem opened_calling {initiator acceptor : Peer}
    (matching : Matching initiator.options acceptor.options)
    (connected : initiator.state = .connected ∧ acceptor.state = .connected)
    (agrees : initiator.incoming = acceptor.outgoing)
    (agreed : acceptor.incoming = initiator.outgoing)
    (small : fitsWire initiator.options.heartbeatInterval.toNat)
    (fits : fitsWire initiator.outgoing ∧ fitsWire acceptor.outgoing) :
    ∃ called opened, (joined initiator acceptor).act .left Peer.open.respond =
        some called ∧
      called.act .right Peer.open.respond = some opened ∧ Calling opened := by
  obtain ⟨called, calls, answers⟩ := opened_facing matching connected small fits.1
    (agrees ▸ fits.2)
  refine ⟨called, _, calls, answers, ?_⟩
  refine ⟨matching, small, ?_, agrees, ?_, ?_, rfl⟩
  · intro side
    cases side with
    | left => rfl
    | right => rfl
  · exact congrArg (· + 1) agreed.symm
  · change [(⟨initiator.outgoing, .logon false initiator.options.heartbeatInterval
      initiator.announced⟩ : Packet)] = _
    rw [← agreed]
    rfl

/-! ### The messages that the sessions write -/

def reportTypes : List Bytes :=
  [MsgType.Reject, MsgType.Logout, MsgType.ResendRequest, MsgType.SequenceReset]

def Unreported (session : Session) : Prop :=
  ∀ message options, .written message options ∈ session.history →
    ∃ msgType, message.MsgType = .ok msgType ∧ msgType ∉ reportTypes

def Announces (pair after : Pair) : Prop :=
  ∀ side, ∃ newer, (after.state side).history = newer ++ (pair.state side).history ∧
    ∀ message ∈ carriedIn newer, message ∈ after.channel side.other

theorem Announces.trans {first second third : Pair} (early : Announces first second)
    (late : Announces second third)
    (grown : ∀ side, ∀ message ∈ second.channel side, message ∈ third.channel side) :
    Announces first third := by
  intro side
  obtain ⟨older, olderEq, olderSent⟩ := early side
  obtain ⟨newer, newerEq, newerSent⟩ := late side
  refine ⟨newer ++ older, ?_, ?_⟩
  · rw [newerEq, olderEq, List.append_assoc]
  · intro message member
    rw [Session.carriedIn_append] at member
    rcases List.mem_append.mp member with old | new
    · exact grown _ message (olderSent message old)
    · exact newerSent message new

theorem act_announces {world : World} {pair after : Pair} {side : Side}
    {input : Session.Input}
    (acted : pair.act side (respond (Session.step (world.environment 0) input)) =
      some after) :
    Announces pair after ∧
      ∀ chosen, ∀ message ∈ pair.channel chosen, message ∈ after.channel chosen := by
  obtain ⟨next, sent, responds, rfl⟩ := Config.act_eq_some acted
  cases responds
  obtain ⟨newer, grown⟩ := Session.step_extends world (pair.state side) input
  refine ⟨?_, ?_⟩
  · intro chosen
    by_cases same : chosen = side
    · rw [same, Config.move_state_self, Config.move_channel_other]
      refine ⟨newer, grown, ?_⟩
      intro message member
      rw [Session.newEvents_eq grown]
      exact List.mem_append_right _ member
    · rw [Side.eq_other_of_ne same, Config.move_state_other]
      exact ⟨[], rfl, by simp [carriedIn]⟩
  · intro chosen message member
    by_cases same : chosen = side
    · rw [same] at member ⊢
      rw [Config.move_channel_self]
      exact member
    · rw [Side.eq_other_of_ne same] at member ⊢
      rw [Config.move_channel_other]
      exact List.mem_append_left _ member

theorem next_announces {worlds : Side → World} {pair after : Pair} {move : Move}
    (moved : pair.next worlds move = some after) : Announces pair after := by
  cases move with
  | deliver side =>
      obtain ⟨message, rest, waiting, acted⟩ : ∃ message rest,
          pair.channel side = message :: rest ∧
          (pair.take side rest).act side (receive worlds side message) = some after := by
        simp only [next, Config.deliver] at moved
        split at moved
        · cases moved
        · next message rest waiting => exact ⟨message, rest, waiting, moved⟩
      exact (@act_announces _ _ _ _ (.received message) acted).1
  | heartbeatTimer side => exact (@act_announces _ _ _ _ .heartbeatTimer moved).1
  | send side message =>
      simp only [next] at moved
      split at moved
      · exact (@act_announces _ _ _ _ (.send message .standard) moved).1
      · cases moved

theorem Ordinary.unreported {payload : Payload} {msgType : Bytes}
    (ordinary : Ordinary payload) (named : payload.Named msgType) :
    msgType ∉ reportTypes := by
  cases payload with
  | application =>
      intro listed
      have admin : ∀ known ∈ reportTypes, known ∈ Message.adminTypes := by decide
      exact named (admin msgType listed)
  | logon _ _ _ | heartbeat _ | testRequest _ =>
      rw [named]
      dsimp only [Payload.msgType]
      decide
  | resendRequest _ _ | gapFill _ | reject => exact ordinary.elim

theorem Announces.unreported {identities : Side → Identity} {pair after : Pair}
    {model : Model} (announces : Announces pair after)
    (follows : Follows identities after model)
    (ordinary : ∀ side, ∀ packet ∈ model.channel side, Ordinary packet.payload)
    (before : ∀ side, Unreported (pair.state side)) (side : Side) :
    Unreported (after.state side) := by
  intro message options member
  obtain ⟨newer, grown, sent⟩ := announces side
  rw [grown] at member
  rcases List.mem_append.mp member with new | old
  · have carried : message.carried options ∈ carriedIn newer :=
      List.mem_filterMap.mpr ⟨_, List.mem_reverse.mpr new, rfl⟩
    obtain ⟨packet, inside, presents⟩ := follows.presented (sent _ carried)
    obtain ⟨msgType, typed, named⟩ := presents.describes.types
    refine ⟨msgType, ?_, (ordinary _ packet inside).unreported named⟩
    unfold Message.MsgType Message.requireField at typed ⊢
    rw [Message.tryGet_carried _ _ (by decide) (by decide)] at typed
    exact typed
  · exact before side message options old

/-! ### Every run -/

/-- No number overflows in a further step. -/
def Small (pair : Pair) : Prop :=
  ∀ side, (pair.state side).outgoingMsgSeqNum.toNat + 2 ≤ 2147483648

/-- What two opened sessions come to, by any moves in any order. -/
inductive Reachable (worlds : Side → World) (start : Pair) : Pair → Prop
  | start : Reachable worlds start start
  | next {pair after : Pair} (move : Move) (reached : Reachable worlds start pair)
      (small : Small pair) (moved : pair.next worlds move = some after) :
      Reachable worlds start after

structure InAgreement (pair : Pair) : Prop where
  /-- What is on its way to a side has consecutive numbers from the expected one, -/
  numbers : ∀ side, (pair.channel side).map Message.MsgSeqNum =
    (List.range' (pair.state side).incomingMsgSeqNum.toNat
      (pair.channel side).length).map fun number => .ok (UInt32.ofNat number)
  /-- up to the last one that the other side has used. -/
  complete : ∀ side, (pair.state side).incomingMsgSeqNum.toNat +
    (pair.channel side).length = (pair.state side.other).outgoingMsgSeqNum.toNat
  unreported : ∀ side, Unreported (pair.state side)
  connected : ∀ side, (pair.state side).state ≠ .disconnected
  loggedOn : pair.Quiet → ∀ side, (pair.state side).state = .loggedOn

def identities (initiator acceptor : SessionOptions) : Side → Identity
  | .left => initiator.identity
  | .right => acceptor.identity

theorem Matching.mirrored {initiator acceptor : SessionOptions}
    (matching : Matching initiator acceptor) (side : Side) :
    identities initiator acceptor side.other =
      (identities initiator acceptor side).mirrored := by
  cases side with
  | left =>
      change acceptor.identity = initiator.identity.mirrored
      unfold SessionOptions.identity Identity.mirrored
      rw [matching.beginString, matching.senderCompID, matching.targetCompID]
  | right =>
      change initiator.identity = acceptor.identity.mirrored
      unfold SessionOptions.identity Identity.mirrored
      rw [matching.beginString, matching.senderCompID, matching.targetCompID]

structure Holds (identities : Side → Identity) (pair : Pair) : Prop where
  model : ∃ model, Follows identities pair model ∧ Agreeing model
  unreported : ∀ side, Unreported (pair.state side)

theorem map_msgSeqNum {sender : Identity} {messages : List Message}
    {packets : List Packet}
    (presents : List.Forall₂ (Presents sender) messages packets) :
    messages.map Message.MsgSeqNum =
      packets.map ((fun number => .ok (UInt32.ofNat number)) ∘ Packet.number) := by
  induction presents with
  | nil => rfl
  | cons here others ih =>
      obtain ⟨number, read, same⟩ := here.msgSeqNum
      rw [List.map_cons, List.map_cons, ih, read, Function.comp_apply, ← same,
        UInt32.ofNat_toNat]

theorem possible_of_next {worlds : Side → World} {identities : Side → Identity}
    {pair after : Pair} {model : Model} {move : Move}
    (follows : Follows identities pair model)
    (moved : pair.next worlds move = some after) : Possible model move := by
  cases move with
  | deliver side =>
      intro empty
      have related := follows.channel side
      rw [empty, List.forall₂_nil_right_iff] at related
      simp only [next, Config.deliver, related] at moved
      cases moved
  | heartbeatTimer side => trivial
  | send side message =>
      simp only [next] at moved
      split at moved
      · next allowed =>
          have state : (pair.state side).state = (model.state side).state := by
            rw [← (follows.state side).1]
            rfl
          exact ⟨state ▸ allowed.1, allowed.2⟩
      · cases moved

theorem Holds.next {worlds : Side → World} {identities : Side → Identity}
    {pair after : Pair} {move : Move}
    (accepts : ∀ side, (worlds side).Accepts)
    (mirrored : ∀ side, identities side.other = (identities side).mirrored)
    (holds : Holds identities pair) (small : Small pair)
    (moved : pair.next worlds move = some after) : Holds identities after := by
  obtain ⟨model, follows, agreeing⟩ := holds.model
  have fits (side : Side) : fitsWire ((model.state side).outgoing + 1) := by
    rw [← (follows.state side).1]
    exact decide_eq_true (small side)
  obtain ⟨modelled, made, still⟩ := agreeing.next fits (possible_of_next follows moved)
  have explains (side : Side) (packet : Packet) (member : packet ∈ model.channel side)
      (fills : packet.payload.isGapFill) : (worlds side).Explains := by
    have ordinary := agreeing.ordinary side packet member
    cases shape : packet.payload with
    | gapFill newSeqNo =>
        rw [shape] at ordinary
        exact ordinary.elim
    | _ =>
        rw [shape] at fills
        cases fills
  obtain ⟨reached, movedTo, followed⟩ := next_follows accepts mirrored explains follows
    made
  rw [moved] at movedTo
  cases movedTo
  exact ⟨⟨modelled, followed, still⟩,
    (next_announces moved).unreported followed still.ordinary holds.unreported⟩

theorem Holds.agreement {identities : Side → Identity} {pair : Pair}
    (holds : Holds identities pair) : InAgreement pair := by
  obtain ⟨model, follows, agreeing⟩ := holds.model
  have state (side : Side) : (pair.state side).peer = model.state side :=
    (follows.state side).1
  have length (side : Side) :
      (pair.channel side).length = (model.channel side).length :=
    (follows.channel side).length_eq
  refine ⟨?_, ?_, holds.unreported, ?_, ?_⟩
  · intro side
    obtain ⟨numbers, -⟩ := (agreeing.consecutive side).numbers
    rw [← state side, ← length side] at numbers
    change _ = (List.range' (pair.state side).peer.incoming _).map _
    rw [← numbers, List.map_map]
    exact map_msgSeqNum (follows.channel side)
  · intro side
    obtain ⟨-, total⟩ := (agreeing.consecutive side).numbers
    rw [← state side, ← state side.other, ← length side] at total
    exact total
  · intro side disconnected
    apply agreeing.connected side
    rw [← state side]
    exact disconnected
  · intro quiet side
    have loggedOn := agreeing.loggedOn (follows.quiet quiet) side
    rw [← state side] at loggedOn
    exact loggedOn

theorem opened_holds {worlds : Side → World} (accepts : ∀ side, (worlds side).Accepts)
    {initiator acceptor : SessionOptions} (matching : Matching initiator acceptor)
    {toLeft toRight : UInt32} (small : initiator.heartbeatInterval.toNat < 2147483648)
    (smallLeft : toLeft.toNat < 2147483648) (smallRight : toRight.toNat < 2147483648)
    {start : Pair}
    (opening : opened worlds (Session.create initiator toLeft toRight)
      (Session.create acceptor toRight toLeft) = some start) :
    Holds (identities initiator acceptor) start := by
  obtain ⟨called, model, calls, answers, calling⟩ :=
    @opened_calling (Session.create initiator toLeft toRight).peer
      (Session.create acceptor toRight toLeft).peer matching ⟨rfl, rfl⟩ rfl rfl
      (decide_eq_true small) ⟨decide_eq_true smallRight, decide_eq_true smallLeft⟩
  have left : (Session.create initiator toLeft toRight).options.identity =
      identities initiator acceptor .left := rfl
  have right : (Session.create acceptor toRight toLeft).options.identity =
      identities initiator acceptor .right := rfl
  obtain ⟨reached, openedTo, follows⟩ := opened_follows accepts left right calls answers
  rw [opening] at openedTo
  cases openedTo
  obtain ⟨first, acted, answered⟩ := Option.bind_eq_some_iff.mp opening
  obtain ⟨early, -⟩ := @act_announces _ _ _ _ .open acted
  obtain ⟨late, grown⟩ := @act_announces _ _ _ _ .open answered
  refine ⟨⟨model, follows, .calling calling⟩, ?_⟩
  apply (early.trans late grown).unreported follows (Agreeing.calling calling).ordinary
  intro side message options member
  cases side with
  | left => cases member
  | right => cases member

theorem reachable_holds {worlds : Side → World}
    (accepts : ∀ side, (worlds side).Accepts) {initiator acceptor : SessionOptions}
    (matching : Matching initiator acceptor) {toLeft toRight : UInt32}
    (small : initiator.heartbeatInterval.toNat < 2147483648)
    (smallLeft : toLeft.toNat < 2147483648) (smallRight : toRight.toNat < 2147483648)
    {start pair : Pair}
    (opening : opened worlds (Session.create initiator toLeft toRight)
      (Session.create acceptor toRight toLeft) = some start)
    (reachable : Reachable worlds start pair) :
    Holds (identities initiator acceptor) pair := by
  induction reachable with
  | start => exact opened_holds accepts matching small smallLeft smallRight opening
  | next move reached within moved ih =>
      exact ih.next accepts matching.mirrored within moved

/-- Whatever is delivered, fired and sent, and in whatever order. -/
theorem reachable_inAgreement {worlds : Side → World}
    (accepts : ∀ side, (worlds side).Accepts) {initiator acceptor : SessionOptions}
    (matching : Matching initiator acceptor) {toLeft toRight : UInt32}
    (small : initiator.heartbeatInterval.toNat < 2147483648)
    (smallLeft : toLeft.toNat < 2147483648) (smallRight : toRight.toNat < 2147483648)
    {start pair : Pair}
    (opening : opened worlds (Session.create initiator toLeft toRight)
      (Session.create acceptor toRight toLeft) = some start)
    (reachable : Reachable worlds start pair) : InAgreement pair := by
  have holds := reachable_holds accepts matching small smallLeft smallRight opening
    reachable
  exact holds.agreement

instance (pair : Pair) : Decidable (Small pair) :=
  decidable_of_iff
    ((pair.state .left).outgoingMsgSeqNum.toNat + 2 ≤ 2147483648 ∧
      (pair.state .right).outgoingMsgSeqNum.toNat + 2 ≤ 2147483648)
    ⟨fun both side => by cases side <;> simp only [both], fun all => ⟨all _, all _⟩⟩

def along (worlds : Side → World) (pair : Pair) : List Move → Option Pair
  | [] => some pair
  | move :: rest =>
      if Small pair then
        (pair.next worlds move).bind fun after => along worlds after rest
      else none

theorem reachable_along {worlds : Side → World} {start pair after : Pair}
    {moves : List Move} (reachable : Reachable worlds start pair)
    (run : along worlds pair moves = some after) : Reachable worlds start after := by
  induction moves generalizing pair with
  | nil =>
      cases run
      exact reachable
  | cons move rest ih =>
      unfold along at run
      split at run
      · next small =>
          obtain ⟨middle, moved, others⟩ := Option.bind_eq_some_iff.mp run
          exact ih (.next move reachable small moved) others
      · cases run

theorem exists_along {worlds : Side → World} {initiator acceptor : Session}
    {moves : List Move} {α : Type} {measure : Pair → α} {value : α}
    (computed : ((opened worlds initiator acceptor).bind fun start =>
      (along worlds start moves).map measure) = some value) :
    ∃ start pair, opened worlds initiator acceptor = some start ∧
      along worlds start moves = some pair ∧ measure pair = value := by
  obtain ⟨start, opening, others⟩ := Option.bind_eq_some_iff.mp computed
  obtain ⟨pair, run, measured⟩ := Option.map_eq_some_iff.mp others
  exact ⟨start, pair, opening, run, measured⟩

def sampleInitiator : SessionOptions :=
  { Session.initiatorOptions with testRequestDelay := 0 }

def sampleAcceptor : SessionOptions :=
  { sampleInitiator with
    logonBehaviour := .acceptor
    senderCompID := sampleInitiator.targetCompID
    targetCompID := sampleInitiator.senderCompID }

def sampleOrder : Message := .make true [⟨Tag.MsgType, ascii "D"⟩]

def sampleMoves : List Move :=
  [.deliver .right, .deliver .left, .deliver .left, .deliver .right, .deliver .right,
    .send .right sampleOrder, .heartbeatTimer .right, .deliver .left,
    .send .left sampleOrder, .deliver .left]

theorem reachable_inAgreement_sample : ∃ start pair,
    opened (fun _ => .plain) (Session.create sampleInitiator 7 12)
      (Session.create sampleAcceptor 12 7) = some start ∧
    along (fun _ => .plain) start sampleMoves = some pair ∧
    InAgreement pair ∧
    (pair.channel .left).length = 1 ∧ (pair.channel .right).length = 1 := by
  have computed : ((opened (fun _ => .plain) (Session.create sampleInitiator 7 12)
      (Session.create sampleAcceptor 12 7)).bind fun start =>
        (along (fun _ => .plain) start sampleMoves).map fun pair =>
          ((pair.channel .left).length, (pair.channel .right).length)) = some (1, 1) := by
    decide +kernel
  obtain ⟨start, pair, opening, run, lengths⟩ := exists_along computed
  have matching : Matching sampleInitiator sampleAcceptor :=
    ⟨rfl, rfl, rfl, rfl, rfl, rfl, rfl, rfl⟩
  have agreement : InAgreement pair :=
    @reachable_inAgreement (fun _ => .plain) (fun _ _ _ _ => rfl) sampleInitiator
      sampleAcceptor matching 7 12 (by decide) (by decide) (by decide) start pair opening
      (reachable_along .start run)
  exact ⟨start, pair, opening, run, agreement, congrArg Prod.fst lengths,
    congrArg Prod.snd lengths⟩

end Pair

end Crocofix
