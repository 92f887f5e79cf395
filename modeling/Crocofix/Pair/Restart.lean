/-
One of two sessions that are logged on restarts the numbering.

The side that begins expects the number 1 at once.  As long as nothing of the
old numbering is on its way to it, both sides come to agree on the new one.
-/

import Crocofix.Pair.Recovery

namespace Crocofix

open Network (Side Config Delivers)

namespace Pair

open Session (World)

/-- What a side that is logged on takes without an answer. -/
def Silent (payload : Payload) : Prop :=
  payload = .application ∨ ∃ testReqID, payload = .heartbeat testReqID

theorem restarted_answers {left right : Peer} {heartBtInt : UInt32}
    {nextExpected : Option Nat}
    (plain : left.options.useNextExpectedMsgSeqNum = false ∧
      right.options.useNextExpectedMsgSeqNum = false)
    (immediate : right.options.testRequestDelay = 0) (loggedOn : right.state = .loggedOn)
    (small : fitsWire heartBtInt.toNat) :
    Settles (facing left.restarted right [] [⟨1, .logon true heartBtInt nextExpected⟩]) := by
  have idle : right.state ≠ .resetting := by
    rw [loggedOn]
    decide
  have answers := @Peer.receive_resetLogon right heartBtInt nextExpected plain.2 idle
    immediate small
  have takes : Peer.receive ⟨1, .logon true heartBtInt none⟩ left.restarted =
      some ((), { (left.restarted.greeted heartBtInt).tested with incoming := 2 },
        [(left.restarted.greeted heartBtInt).testing]) :=
    Peer.receive_resetLogon_answer plain.1 rfl (show fitsWire 2 by decide)
  apply Ends.deliver_right answers
  apply Ends.deliver_left takes
  refine settles_of_traffic ⟨rfl, rfl⟩ ⟨⟨rfl, rfl⟩, rfl, rfl⟩ ?_ ?_ ?_ ?_ ?_
  · intro packet member
    rw [List.mem_singleton.mp member]
    rfl
  · intro packet member
    rw [List.mem_singleton.mp member]
    rfl
  · exact ⟨.inr (.inl rfl), .inr (.inl rfl)⟩
  · exact ⟨.inr ⟨_, List.mem_singleton_self _, _, rfl⟩,
      .inr ⟨_, List.mem_singleton_self _, _, rfl⟩⟩
  · exact ⟨show 3 + (2 + 2) < 2147483648 by decide, show 3 + (2 + 2) < 2147483648 by decide⟩

/-- What the other side had on its way before the Logon comes to rest first. -/
theorem restarted_settles {left right : Peer} {packets : List Packet} {last : Nat}
    {heartBtInt : UInt32} {nextExpected : Option Nat}
    (plain : left.options.useNextExpectedMsgSeqNum = false ∧
      right.options.useNextExpectedMsgSeqNum = false)
    (immediate : right.options.testRequestDelay = 0)
    (seen : right.options.logonBehaviour = .initiator ∨ right.logonReceived)
    (loggedOn : right.state = .loggedOn) (small : fitsWire heartBtInt.toNat)
    (numbered : Numbered packets right.incoming last)
    (silent : ∀ packet ∈ packets, Silent packet.payload) :
    Settles (facing left.restarted right []
      (packets ++ [⟨1, .logon true heartBtInt nextExpected⟩])) := by
  induction packets generalizing right with
  | nil => exact restarted_answers plain immediate loggedOn small
  | cons packet rest ih =>
      rcases packet with ⟨number, payload⟩
      obtain ⟨rfl, others⟩ := numbered
      have admits := Peer.admits_of_logonReceived payload seen
      have takes : Peer.receive ⟨right.incoming, payload⟩ right =
          some ((), { right with incoming := right.incoming + 1 }, []) := by
        rcases silent _ List.mem_cons_self with application | ⟨testReqID, heartbeat⟩
        · cases application
          exact Peer.receive_application admits
        · cases heartbeat
          exact Peer.receive_heartbeat_loggedOn admits loggedOn
      apply Ends.deliver_right takes
      exact @ih { right with incoming := right.incoming + 1 } plain immediate seen loggedOn
        others fun other member => silent other (List.mem_cons_of_mem _ member)

/-- Both sides are logged on, and only messages that need no answer are on their
way, with the numbers that are expected. -/
structure Trading (identities : Side → Identity) (pair : Pair) : Prop where
  identity : ∀ side, (pair.state side).options.identity = identities side
  plain : ∀ side, (pair.state side).options.useNextExpectedMsgSeqNum = false
  immediate : ∀ side, (pair.state side).options.testRequestDelay = 0
  seen : ∀ side, (pair.state side).options.logonBehaviour = .initiator ∨
    (pair.state side).logonReceived
  loggedOn : ∀ side, (pair.state side).state = .loggedOn
  traffic : ∀ side, ∃ packets,
    List.Forall₂ (PresentsTo identities side) (pair.channel side) packets ∧
      Numbered packets (pair.state side).incomingMsgSeqNum.toNat
        (pair.state side.other).outgoingMsgSeqNum.toNat ∧
      ∀ packet ∈ packets, Silent packet.payload

structure Calm (model : Model) : Prop where
  plain : ∀ side, (model.state side).options.useNextExpectedMsgSeqNum = false
  immediate : ∀ side, (model.state side).options.testRequestDelay = 0
  seen : ∀ side, (model.state side).options.logonBehaviour = .initiator ∨
    (model.state side).logonReceived
  loggedOn : ∀ side, (model.state side).state = .loggedOn
  consecutive : Consecutive model
  silent : ∀ side, ∀ packet ∈ model.channel side, Silent packet.payload

theorem Trading.follows {identities : Side → Identity} {pair : Pair}
    (trading : Trading identities pair) :
    ∃ model : Model, Follows identities pair model ∧ Calm model := by
  choose packets presents numbered silent using trading.traffic
  refine ⟨⟨fun side => (pair.state side).peer, packets⟩, ⟨?_, presents⟩, ?_⟩
  · exact fun side => ⟨rfl, trading.identity side⟩
  · exact ⟨trading.plain, trading.immediate, trading.seen, trading.loggedOn, numbered,
      silent⟩

theorem Calm.restarted {model : Model} (calm : Calm model) {side : Side}
    (nothing : model.channel side = []) {heartBtInt : UInt32} {nextExpected : Option Nat}
    (small : fitsWire heartBtInt.toNat) :
    Settles (model.move side (model.state side).restarted
      [⟨1, .logon true heartBtInt nextExpected⟩]) := by
  have settles : Settles (facing (model.state side).restarted (model.state side.other) []
      (model.channel side.other ++ [⟨1, .logon true heartBtInt nextExpected⟩])) :=
    restarted_settles ⟨calm.plain side, calm.plain side.other⟩ (calm.immediate side.other)
      (calm.seen side.other) (calm.loggedOn side.other) small
      (calm.consecutive side.other) (calm.silent side.other)
  rw [eq_facing (model.move side _ _)]
  cases side with
  | left =>
      change Settles (facing _ (model.state .right) (model.channel .left) _)
      rw [nothing]
      exact settles
  | right =>
      apply Settles.swap
      change Settles (facing _ (model.state .left) (model.channel .right) _)
      rw [nothing]
      exact settles

/-- A Logon that restarts the numbering, as an application may send it. -/
structure Restarting (message : Message) (heartBtInt : UInt32) (nextExpected : Option Nat) :
    Prop where
  header : message.HasHeader
  describes : (Payload.logon true heartBtInt nextExpected).Describes message
  readable : (Payload.logon true heartBtInt nextExpected).readable

/-- However the messages are delivered, the sessions come to the new numbering,
if nothing is on its way to the side that begins. -/
theorem restart_recovers {worlds : Side → World} (accepts : ∀ side, (worlds side).Accepts)
    (explains : ∀ side, (worlds side).Explains) {identities : Side → Identity}
    (mirrored : ∀ side, identities side.other = (identities side).mirrored)
    {pair start : Pair} (trading : Trading identities pair) {side : Side}
    (nothing : pair.channel side = []) {message : Message} {heartBtInt : UInt32}
    {nextExpected : Option Nat} (restarting : Restarting message heartBtInt nextExpected)
    (sends : pair.act side
      (respond (Session.send ((worlds side).environment 0) message .standard)) = some start)
    {count : Nat} {after : Pair} (reaches : Delivers (receive worlds) count start after) :
    (∀ chosen, (after.state chosen).state ≠ .disconnected) ∧
      (after.Quiet → Recovered after) := by
  obtain ⟨model, follows, calm⟩ := trading.follows
  have mirrors (side : Side) (message : Message) (packet : Packet)
      (presents : PresentsTo identities side message packet) :=
    receive_mirrors accepts mirrored presents fun _ => explains side
  have small : fitsWire heartBtInt.toNat :=
    (Bool.and_eq_true_iff.mp restarting.readable).1
  have modelled : model.act side
      (Peer.send (.logon true heartBtInt nextExpected)).respond =
      some (model.move side (model.state side).restarted
        [⟨1, .logon true heartBtInt nextExpected⟩]) :=
    Option.map_eq_some_iff.mpr ⟨_, Option.map_eq_some_iff.mpr
      ⟨_, Peer.send_resetLogon rfl restarting.readable, rfl⟩, rfl⟩
  have sendMirrors : Network.Mirrors (Represents identities) (PresentsTo identities) side
      (respond (Session.send ((worlds side).environment 0) message .standard))
      (Peer.send (.logon true heartBtInt nextExpected)).respond := by
    apply respond_mirrors
    intro session _
    exact Session.send_refines (accepts side) restarting.header restarting.describes session
  obtain ⟨reached, sent, followed⟩ := follows.act sendMirrors modelled
  rw [sends] at sent
  cases sent
  have empty : model.channel side = [] := by
    have related := follows.channel side
    rw [nothing] at related
    exact List.forall₂_nil_left_iff.mp related
  obtain ⟨total, last, run, rests, settled⟩ := calm.restarted empty small
  obtain ⟨middle, fewer, still, taken, remaining⟩ := followed.delivers mirrors run rests
    reaches
  have connected (chosen : Side) : Peer.Connected (middle.state chosen) := by
    refine taken.keeps ?_ ?_ chosen
    · intro side packet peer next out reacts
      obtain ⟨⟨_, _, _⟩, receives, same⟩ := Option.map_eq_some_iff.mp reacts
      cases same
      exact (Peer.receive_connected packet).kept _ _ _ _ receives
    · intro own
      by_cases same : own = side
      · rw [same, Config.move_state_self]
        exact nofun
      · rw [Side.eq_other_of_ne same, Config.move_state_other]
        intro disconnected
        cases disconnected.symm.trans (calm.loggedOn side.other)
  refine ⟨?_, ?_⟩
  · intro chosen disconnected
    apply connected chosen
    rw [← (still.state chosen).1]
    exact disconnected
  · intro quiet
    have same := remaining.eq_of_quiet (still.quiet quiet)
    rw [same] at still
    exact recovered_of_follows still rests settled

/-! ### Runs -/

theorem Holds.trading {identities : Side → Identity} {pair : Pair}
    (holds : Holds identities pair)
    (plain : ∀ side, (pair.state side).options.useNextExpectedMsgSeqNum = false)
    (immediate : ∀ side, (pair.state side).options.testRequestDelay = 0)
    (loggedOn : ∀ side, (pair.state side).state = .loggedOn)
    (unasked : ∀ side, ∀ message ∈ pair.channel side,
      message.MsgType ≠ .ok MsgType.TestRequest) : Trading identities pair := by
  obtain ⟨model, follows, agreeing⟩ := holds.model
  have state (side : Side) : model.state side = (pair.state side).peer :=
    (follows.state side).1.symm
  have settled : Settled model := by
    cases agreeing with
    | calling stage =>
        have waits := stage.waits .left
        rw [state] at waits
        cases waits.symm.trans (loggedOn .left)
    | answered stage =>
        have waits := stage.waits .left
        rw [state] at waits
        cases waits.symm.trans (loggedOn .left)
    | settled stage => exact stage
  refine ⟨fun side => (follows.state side).2, plain, immediate, ?_, loggedOn, ?_⟩
  · intro side
    have seen := settled.seen side
    rw [state] at seen
    exact seen
  · intro side
    have numbered := settled.consecutive side
    rw [state, state side.other] at numbered
    refine ⟨model.channel side, follows.channel side, numbered, ?_⟩
    intro packet member
    have traffic := settled.traffic side packet member
    have turned : List.Forall₂ (flip (PresentsTo identities side)) (model.channel side)
        (pair.channel side) := (follows.channel side).flip
    obtain ⟨message, inside, presents⟩ := Network.exists_related turned member
    obtain ⟨msgType, typed, named⟩ := presents.describes.types
    cases shape : packet.payload with
    | heartbeat testReqID => exact .inr ⟨testReqID, rfl⟩
    | application => exact .inl rfl
    | testRequest testReqID =>
        rw [shape] at named
        rw [(named : msgType = MsgType.TestRequest)] at typed
        exact absurd typed (unasked side message inside)
    | logon _ _ _ | resendRequest _ _ | gapFill _ | reject =>
        rw [shape] at traffic
        exact traffic.elim

def sampleRestart : Message :=
  .make true
    [⟨Tag.MsgType, MsgType.Logon⟩, ⟨Tag.EncryptMethod, EncryptMethod.None⟩,
      .ofUInt32 Tag.HeartBtInt 30, .ofBool Tag.ResetSeqNumFlag true]

theorem restarting_sampleRestart : Restarting sampleRestart 30 none :=
  ⟨Message.hasHeader_make _, ⟨⟨_, rfl, rfl⟩, rfl, rfl, rfl, rfl⟩, by decide⟩

def sampleLogons : List Move :=
  [.deliver .right, .deliver .left, .deliver .left, .deliver .right, .deliver .right,
    .deliver .left]

def sampleTrading (pair : Pair) : Bool :=
  [Side.left, .right].all fun side =>
    (pair.state side).state = .loggedOn &&
      (pair.state side).options.useNextExpectedMsgSeqNum = false &&
      (pair.state side).options.testRequestDelay = 0 &&
      (pair.channel side).all fun message => message.MsgType ≠ .ok MsgType.TestRequest

theorem trading_sample {moves : List Move} {start pair : Pair}
    (opening : opened (fun _ => explainingWorld) (Session.create sampleInitiator 7 12)
      (Session.create sampleAcceptor 12 7) = some start)
    (run : along (fun _ => explainingWorld) start moves = some pair)
    (trades : sampleTrading pair) :
    Trading (identities sampleInitiator sampleAcceptor) pair := by
  have matching : Matching sampleInitiator sampleAcceptor :=
    ⟨rfl, rfl, rfl, rfl, rfl, rfl, rfl, rfl⟩
  have holds : Holds (identities sampleInitiator sampleAcceptor) pair :=
    @reachable_holds (fun _ => explainingWorld) (fun _ _ _ _ => rfl) sampleInitiator
      sampleAcceptor matching 7 12 (by decide) (by decide) (by decide) start pair opening
      (reachable_along .start run)
  have every (side : Side) : ((((pair.state side).state = .loggedOn ∧
      (pair.state side).options.useNextExpectedMsgSeqNum = false) ∧
      (pair.state side).options.testRequestDelay = 0) ∧
      ∀ message ∈ pair.channel side, message.MsgType ≠ .ok MsgType.TestRequest) := by
    have listed : side ∈ [Side.left, .right] := by
      cases side with
      | left => exact List.mem_cons_self
      | right => exact List.mem_cons_of_mem _ List.mem_cons_self
    have checked := List.all_eq_true.mp trades side listed
    simpa only [Bool.and_eq_true, decide_eq_true_eq, List.all_eq_true] using checked
  exact holds.trading (fun side => (every side).1.1.2) (fun side => (every side).1.2)
    (fun side => (every side).1.1.1) fun side => (every side).2

def restarting (moves : List Move) (side : Side) (sides : List Side) :
    Option (Pair × Pair) :=
  (opened (fun _ => explainingWorld) (Session.create sampleInitiator 7 12)
    (Session.create sampleAcceptor 12 7)).bind fun start =>
      (along (fun _ => explainingWorld) start moves).bind fun pair =>
        (pair.act side (respond (Session.send (explainingWorld.environment 0)
          sampleRestart .standard))).bind fun begun =>
            (delivering (fun _ => explainingWorld) begun sides).map fun after =>
              (pair, after)

/-- Where a message is on its way to the side that begins, the other side ends
the connection: it takes the answer to its first TestRequest for one to its
last. -/
theorem restart_disconnects : ∃ pair begun after,
    Trading (identities sampleInitiator sampleAcceptor) pair ∧
    Restarting sampleRestart 30 none ∧
    pair.act .left (respond (Session.send (explainingWorld.environment 0)
      sampleRestart .standard)) = some begun ∧
    (∃ count, Delivers (receive fun _ => explainingWorld) count begun after) ∧
    (after.state .right).state = .disconnected := by
  have computed : (restarting (sampleLogons ++ [.send .right sampleOrder]) .left
      [.left, .right, .right, .left, .left, .left, .left, .right, .right, .right]).map
        (fun (pair, after) => (sampleTrading pair, (after.state .right).state)) =
      some (true, .disconnected) := by
    decide +kernel
  obtain ⟨⟨pair, after⟩, made, measured⟩ := Option.map_eq_some_iff.mp computed
  obtain ⟨start, opening, others⟩ := Option.bind_eq_some_iff.mp made
  obtain ⟨traded, run, others⟩ := Option.bind_eq_some_iff.mp others
  obtain ⟨begun, sent, others⟩ := Option.bind_eq_some_iff.mp others
  obtain ⟨last, delivered, same⟩ := Option.map_eq_some_iff.mp others
  cases same
  obtain ⟨trades, disconnected⟩ := Prod.mk.injEq .. ▸ measured
  exact ⟨pair, begun, after, trading_sample opening run trades, restarting_sampleRestart,
    sent, delivers_delivering delivered, disconnected⟩

theorem restart_recovers_sample : ∃ pair begun,
    Trading (identities sampleInitiator sampleAcceptor) pair ∧
    (pair.channel .right).length = 1 ∧
    pair.act .left (respond (Session.send (explainingWorld.environment 0)
      sampleRestart .standard)) = some begun ∧
    ∀ count after, Delivers (receive fun _ => explainingWorld) count begun after →
      (∀ chosen, (after.state chosen).state ≠ .disconnected) ∧
        (after.Quiet → Recovered after) := by
  have computed : (restarting (sampleLogons ++ [.send .left sampleOrder]) .left []).map
        (fun (pair, _) =>
          (sampleTrading pair, pair.channel .left, (pair.channel .right).length)) =
      some (true, [], 1) := by
    decide +kernel
  obtain ⟨⟨pair, after⟩, made, measured⟩ := Option.map_eq_some_iff.mp computed
  obtain ⟨start, opening, others⟩ := Option.bind_eq_some_iff.mp made
  obtain ⟨traded, run, others⟩ := Option.bind_eq_some_iff.mp others
  obtain ⟨begun, sent, others⟩ := Option.bind_eq_some_iff.mp others
  obtain ⟨last, delivered, same⟩ := Option.map_eq_some_iff.mp others
  cases same
  obtain ⟨trades, nothing, length⟩ : sampleTrading pair = true ∧ pair.channel .left = [] ∧
      (pair.channel .right).length = 1 := by
    simpa only [Prod.mk.injEq] using measured
  have matching : Matching sampleInitiator sampleAcceptor :=
    ⟨rfl, rfl, rfl, rfl, rfl, rfl, rfl, rfl⟩
  have trading := trading_sample opening run trades
  refine ⟨pair, begun, trading, length, sent, ?_⟩
  intro count after reaches
  exact restart_recovers (fun _ _ _ _ => rfl) (fun _ => explainingWorld_explains)
    matching.mirrored trading nothing restarting_sampleRestart sent reaches

end Pair

end Crocofix
