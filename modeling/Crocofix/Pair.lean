/-
An initiator and an acceptor joined by channels that lose nothing and keep the
order.

What a session hands to its writer in a step is on its way to the other side
after the step.  The initiator is on the left.
-/

import Crocofix.Session.Counterpart
import Crocofix.Session.Incoming

namespace Crocofix

open Numeral
open Network (Side Config Response)

/-- Two sessions, and the messages on their way to either of them. -/
abbrev Pair : Type := Config Session Message

namespace Pair

open Session (Action World carriedIn newEvents)

def respond (call : Action Unit) (session : Session) : Response Session Message :=
  some ((call session).2, carriedIn (newEvents session (call session).2))

def receive (worlds : Side → World) (side : Side) (message : Message) :
    Session → Response Session Message :=
  respond (Session.onMessageRead ((worlds side).environment 0) message)

/-- An application message that may be sent: it has the standard header, and it
is no repetition. -/
def Sendable (message : Message) : Prop :=
  message.HasHeader ∧ message.IsApplication ∧ message.PossDupFlag = .ok false

instance (message : Message) : Decidable (Sendable message) :=
  inferInstanceAs (Decidable (_ ∧ _))

inductive Move
  | deliver (side : Side)
  | heartbeatTimer (side : Side)
  | send (side : Side) (message : Message)
deriving DecidableEq, Repr

/-- A session sends application messages while it is logged on. -/
def next (worlds : Side → World) (pair : Pair) : Move → Option Pair
  | .deliver side => pair.deliver (receive worlds) side
  | .heartbeatTimer side =>
      pair.act side (respond (Session.defibrillate ((worlds side).environment 0)))
  | .send side message =>
      if (pair.state side).state = .loggedOn ∧ Sendable message then
        pair.act side
          (respond (Session.send ((worlds side).environment 0) message .standard))
      else none

def joined {σ μ : Type} (initiator acceptor : σ) : Config σ μ where
  state
    | .left => initiator
    | .right => acceptor
  channel _ := []

def opened (worlds : Side → World) (initiator acceptor : Session) : Option Pair :=
  ((joined initiator acceptor).act .left
    (respond (Session.open ((worlds .left).environment 0)))).bind fun called =>
      called.act .right (respond (Session.open ((worlds .right).environment 0)))

structure Matching (initiator acceptor : SessionOptions) : Prop where
  initiates : initiator.logonBehaviour = .initiator
  accepts : acceptor.logonBehaviour = .acceptor
  beginString : acceptor.beginString = initiator.beginString
  senderCompID : acceptor.senderCompID = initiator.targetCompID
  targetCompID : acceptor.targetCompID = initiator.senderCompID
  nextExpected : acceptor.useNextExpectedMsgSeqNum =
    initiator.useNextExpectedMsgSeqNum
  initiatorDelay : initiator.testRequestDelay = 0
  acceptorDelay : acceptor.testRequestDelay = 0

/-! ### The pair follows its counterpart -/

abbrev Model : Type := Config Peer Packet

def react (_ : Side) (packet : Packet) : Peer → Response Peer Packet :=
  (Peer.receive packet).respond

def Represents (identities : Side → Identity) (side : Side) (session : Session)
    (peer : Peer) : Prop :=
  session.peer = peer ∧ session.options.identity = identities side

def PresentsTo (identities : Side → Identity) (side : Side) : Message → Packet → Prop :=
  Presents (identities side.other)

abbrev Follows (identities : Side → Identity) (pair : Pair) (model : Model) : Prop :=
  Config.Follows (Represents identities) (PresentsTo identities) pair model

variable {identities : Side → Identity}

theorem respond_mirrors {side : Side} {call : Action Unit} {reply : Peer.Reply Unit}
    (refines : ∀ session : Session, session.options.identity = identities side →
      Session.Refines call reply session) :
    Network.Mirrors (Represents identities) (PresentsTo identities) side
      (respond call) reply.respond := by
  intro session seen next sent represents reacts
  obtain ⟨rfl, identity⟩ := represents
  obtain ⟨⟨_, _, _⟩, replied, same⟩ := Option.map_eq_some_iff.mp reacts
  cases same
  obtain ⟨after, run, rfl, kept, newer, grown, presents⟩ :=
    refines session identity () next sent replied
  refine ⟨after, carriedIn newer, ?_, ⟨rfl, kept.trans identity⟩, ?_⟩
  · unfold respond
    rw [run, Session.newEvents_eq grown]
  · unfold PresentsTo
    rw [Side.other_other, ← identity]
    exact presents

theorem receive_mirrors {worlds : Side → World}
    (accepts : ∀ side, (worlds side).Accepts)
    (mirrored : ∀ side, identities side.other = (identities side).mirrored)
    {side : Side} {message : Message} {packet : Packet}
    (presents : PresentsTo identities side message packet)
    (explains : packet.payload.isGapFill → (worlds side).Explains) :
    Network.Mirrors (Represents identities) (PresentsTo identities) side
      (receive worlds side message) (react side packet) := by
  apply respond_mirrors
  intro session identity
  apply Session.onMessageRead_refines (accepts side) _ explains
  rw [identity, ← mirrored]
  exact presents

theorem send_mirrors {worlds : Side → World} (accepts : ∀ side, (worlds side).Accepts)
    (side : Side) {message : Message} (sendable : Sendable message) :
    Network.Mirrors (Represents identities) (PresentsTo identities) side
      (respond (Session.send ((worlds side).environment 0) message .standard))
      (Peer.send .application).respond := by
  obtain ⟨header, application, fresh⟩ := sendable
  apply respond_mirrors
  intro session _
  apply Session.send_refines (accepts side) header
  unfold Message.IsApplication Message.isAdmin at application
  cases typed : message.MsgType with
  | error exception =>
      rw [typed] at application
      cases application
  | ok msgType =>
      rw [typed] at application
      refine ⟨⟨msgType, typed, ?_⟩, fresh, trivial⟩
      intro admin
      have listed : Message.adminTypes.contains msgType = true :=
        List.contains_iff_mem.mpr admin
      injection application with unlisted
      rw [listed] at unlisted
      cases unlisted

def Model.next (model : Model) : Move → Option Model
  | .deliver side => model.deliver react side
  | .heartbeatTimer side => model.act side Peer.defibrillate.respond
  | .send side message =>
      if (model.state side).state = .loggedOn ∧ Sendable message then
        model.act side (Peer.send .application).respond
      else none

theorem next_follows {worlds : Side → World}
    (accepts : ∀ side, (worlds side).Accepts)
    (mirrored : ∀ side, identities side.other = (identities side).mirrored)
    {pair : Pair} {model after : Model} {move : Move}
    (explains : ∀ side, ∀ packet ∈ model.channel side, packet.payload.isGapFill →
      (worlds side).Explains)
    (follows : Follows identities pair model) (moved : model.next move = some after) :
    ∃ reached, pair.next worlds move = some reached ∧
      Follows identities reached after := by
  cases move with
  | deliver side =>
      apply Config.Follows.deliver follows _ moved
      intro message packet member presents
      exact receive_mirrors accepts mirrored presents (explains side packet member)
  | heartbeatTimer side =>
      apply Config.Follows.act follows _ moved
      apply respond_mirrors
      intro session _
      exact Session.defibrillate_refines (accepts side) session
  | send side message =>
      have state : (pair.state side).state = (model.state side).state := by
        rw [← (follows.state side).1]
        rfl
      simp only [Model.next] at moved
      simp only [next]
      split at moved
      · next allowed =>
          rw [if_pos (state ▸ allowed)]
          exact Config.Follows.act follows (send_mirrors accepts side allowed.2) moved
      · cases moved

def facing (left right : Peer) (toLeft toRight : List Packet) : Model where
  state
    | .left => left
    | .right => right
  channel
    | .left => toLeft
    | .right => toRight

theorem eq_facing (model : Model) :
    model = facing (model.state .left) (model.state .right) (model.channel .left)
      (model.channel .right) :=
  Config.ext_side .left rfl rfl rfl rfl

theorem opened_facing {initiator acceptor : Peer}
    (matching : Matching initiator.options acceptor.options)
    (connected : initiator.state = .connected ∧ acceptor.state = .connected)
    (small : fitsWire initiator.options.heartbeatInterval.toNat)
    (fits : fitsWire initiator.outgoing) (expects : fitsWire initiator.incoming) :
    ∃ called, (joined initiator acceptor).act .left Peer.open.respond = some called ∧
      called.act .right Peer.open.respond = some (facing
        { initiator with state := .loggingOn, outgoing := initiator.outgoing + 1 }
        { acceptor with state := .loggingOn } []
        [⟨initiator.outgoing, .logon false initiator.options.heartbeatInterval
          initiator.announced⟩]) := by
  have calls : Peer.open initiator =
      some ((), { initiator with state := .loggingOn, outgoing := initiator.outgoing + 1 },
        [⟨initiator.outgoing, .logon false initiator.options.heartbeatInterval
          initiator.announced⟩]) := by
    unfold Peer.open Peer.setState Reaction.onlyIf
    rw [Reaction.get_bind, if_neg (not_not.mpr connected.1), Reaction.modify_bind,
      if_pos matching.initiates]
    exact Peer.sendLogon_eq fits small expects
  have answers : Peer.open acceptor =
      some ((), { acceptor with state := .loggingOn }, []) := by
    unfold Peer.open Peer.setState Reaction.onlyIf
    have passive : acceptor.options.logonBehaviour ≠ .initiator := by
      rw [matching.accepts]
      decide
    rw [Reaction.get_bind, if_neg (not_not.mpr connected.2), Reaction.modify_bind,
      if_neg passive]
    rfl
  refine ⟨_, Option.map_eq_some_iff.mpr
    ⟨_, Option.map_eq_some_iff.mpr ⟨_, calls, rfl⟩, rfl⟩, ?_⟩
  refine (Option.map_eq_some_iff.mpr
    ⟨_, Option.map_eq_some_iff.mpr ⟨_, answers, rfl⟩, rfl⟩).trans (congrArg some ?_)
  exact eq_facing _

theorem opened_follows {worlds : Side → World}
    (accepts : ∀ side, (worlds side).Accepts) {initiator acceptor : Session}
    (left : initiator.options.identity = identities .left)
    (right : acceptor.options.identity = identities .right) {called after : Model}
    (calls : (joined initiator.peer acceptor.peer).act .left Peer.open.respond =
      some called)
    (answers : called.act .right Peer.open.respond = some after) :
    ∃ reached, opened worlds initiator acceptor = some reached ∧
      Follows identities reached after := by
  have follows : Follows identities (joined initiator acceptor)
      (joined initiator.peer acceptor.peer) := by
    refine ⟨?_, fun _ => .nil⟩
    intro side
    cases side with
    | left => exact ⟨rfl, left⟩
    | right => exact ⟨rfl, right⟩
  have opens (side : Side) : Network.Mirrors (Represents identities)
      (PresentsTo identities) side
      (respond (Session.open ((worlds side).environment 0))) Peer.open.respond := by
    apply respond_mirrors
    intro session _
    exact Session.open_refines (accepts side) session
  obtain ⟨first, firstOpened, firstFollows⟩ := follows.act (opens .left) calls
  obtain ⟨second, secondOpened, secondFollows⟩ := firstFollows.act (opens .right)
    answers
  refine ⟨second, ?_, secondFollows⟩
  unfold opened
  rw [firstOpened]
  exact secondOpened

end Pair

end Crocofix
