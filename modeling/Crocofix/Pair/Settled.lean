/-
Two sessions that have both answered the other's Logon.

Only TestRequests, Heartbeats and application messages are on their way, with
the numbers that are expected.  Each side is logged on, or the Heartbeat that
logs it on is certain to come.
-/

import Crocofix.Pair
import Crocofix.Session.Exchange

namespace Crocofix

open Network (Side Config Delivers)

namespace Pair

/-! ### Consecutive numbers -/

/-- The packets carry the numbers from the first one up to before the last. -/
def Numbered : List Packet → Nat → Nat → Prop
  | [], first, last => first = last
  | packet :: rest, first, last => packet.number = first ∧ Numbered rest (first + 1) last

theorem Numbered.append {early late : List Packet} {first middle last : Nat}
    (start : Numbered early first middle) (finish : Numbered late middle last) :
    Numbered (early ++ late) first last := by
  induction early generalizing first with
  | nil =>
      cases start
      exact finish
  | cons packet rest ih => exact ⟨start.1, ih start.2⟩

theorem Numbered.numbers {packets : List Packet} {first last : Nat}
    (numbered : Numbered packets first last) :
    packets.map Packet.number = List.range' first packets.length ∧
      first + packets.length = last := by
  induction packets generalizing first with
  | nil => exact ⟨rfl, numbered⟩
  | cons packet rest ih =>
      obtain ⟨number, others⟩ := numbered
      obtain ⟨numbers, total⟩ := ih others
      refine ⟨?_, ?_⟩
      · rw [List.map_cons, List.length_cons, List.range'_succ, number, numbers]
      · rw [← total, List.length_cons]
        omega

/-- What is on its way to each side carries the numbers that it expects. -/
def Consecutive (model : Model) : Prop :=
  ∀ side, Numbered (model.channel side) (model.state side).incoming
    (model.state side.other).outgoing

theorem Consecutive.move {model : Model} {side : Side} {rest sent : List Packet}
    {next : Peer} (consecutive : Consecutive model)
    (waits : Numbered rest next.incoming (model.state side.other).outgoing)
    (sends : Numbered sent (model.state side).outgoing next.outgoing) :
    Consecutive ((model.take side rest).move side next sent) := by
  intro chosen
  by_cases same : chosen = side
  · rw [same, Config.move_state_self, Config.move_state_other,
      Config.move_channel_self, Config.take_channel_self]
    exact waits
  · rw [Side.eq_other_of_ne same, Side.other_other, Config.move_state_self,
      Config.move_state_other, Config.move_channel_other, Config.take_channel_other]
    have others := consecutive side.other
    rw [Side.other_other] at others
    exact others.append sends

/-! ### Both sides have answered -/

/-- What is on its way to a side that waits for a Heartbeat with its own id. -/
def Traffic (own others : Option UInt32) : Payload → Prop
  | .heartbeat testReqID => ∀ received ∈ testReqID, own = some received
  | .testRequest testReqID => others = some testReqID
  | .application => True
  | _ => False

@[simp]
theorem traffic_heartbeat {own others : Option UInt32} {testReqID : UInt32} :
    Traffic own others (.heartbeat (some testReqID)) ↔ own = some testReqID := by
  constructor
  · intro traffic
    exact traffic testReqID rfl
  · intro expected received same
    cases same
    exact expected

@[simp]
theorem traffic_testRequest {own others : Option UInt32} {testReqID : UInt32} :
    Traffic own others (.testRequest testReqID) ↔ others = some testReqID :=
  Iff.rfl

/-- A Heartbeat is on its way to a side, or what makes the other side send it. -/
def Answering (own others : List Packet) : Prop :=
  (∃ packet ∈ own, ∃ testReqID, packet.payload = .heartbeat testReqID) ∨
    ∃ packet ∈ others, ∃ testReqID, packet.payload = .testRequest testReqID

def Unconfirmed (state : SessionState) : Prop :=
  state = .loggingOn ∨ state = .resetting ∨ state = .resending

structure Settled (model : Model) : Prop where
  consecutive : Consecutive model
  seen : ∀ side, (model.state side).options.logonBehaviour = .initiator ∨
    (model.state side).logonReceived
  traffic : ∀ side, ∀ packet ∈ model.channel side,
    Traffic (model.state side).expectedTestRequestId
      (model.state side.other).expectedTestRequestId packet.payload
  stands : ∀ side, (model.state side).state = .loggedOn ∨
    Unconfirmed (model.state side).state ∧
      Answering (model.channel side) (model.channel side.other)

structure Keeps (peer next : Peer) : Prop where
  options : next.options = peer.options
  seen : next.logonReceived = peer.logonReceived
  expects : next.expectedTestRequestId = peer.expectedTestRequestId

theorem Settled.move {model : Model} {side : Side} {rest sent : List Packet}
    {next : Peer} (settled : Settled model) (kept : Keeps (model.state side) next)
    (left : ∀ packet ∈ rest, packet ∈ model.channel side)
    (waits : Numbered rest next.incoming (model.state side.other).outgoing)
    (sends : Numbered sent (model.state side).outgoing next.outgoing)
    (traffic : ∀ packet ∈ sent,
      Traffic (model.state side.other).expectedTestRequestId
        (model.state side).expectedTestRequestId packet.payload)
    (stands : next.state = .loggedOn ∨ Unconfirmed next.state ∧
      Answering rest (model.channel side.other ++ sent))
    (answers : Answering (model.channel side.other) (model.channel side) →
      Answering (model.channel side.other ++ sent) rest) :
    Settled ((model.take side rest).move side next sent) where
  consecutive := settled.consecutive.move waits sends
  seen := by
    intro chosen
    by_cases same : chosen = side
    · rw [same, Config.move_state_self, kept.options, kept.seen]
      exact settled.seen side
    · rw [Side.eq_other_of_ne same, Config.move_state_other]
      exact settled.seen side.other
  traffic := by
    intro chosen packet member
    by_cases same : chosen = side
    · rw [same] at member ⊢
      rw [Config.move_channel_self, Config.take_channel_self] at member
      rw [Config.move_state_self, Config.move_state_other, kept.expects]
      exact settled.traffic side packet (left packet member)
    · rw [Side.eq_other_of_ne same] at member ⊢
      rw [Config.move_channel_other, Config.take_channel_other] at member
      rw [Side.other_other, Config.move_state_self, Config.move_state_other,
        kept.expects]
      rcases List.mem_append.mp member with waiting | new
      · have others := settled.traffic side.other packet waiting
        rw [Side.other_other] at others
        exact others
      · exact traffic packet new
  stands := by
    intro chosen
    by_cases same : chosen = side
    · rw [same, Config.move_state_self, Config.move_channel_self,
        Config.take_channel_self, Config.move_channel_other, Config.take_channel_other]
      exact stands
    · rw [Side.eq_other_of_ne same, Side.other_other, Config.move_state_other,
        Config.move_channel_other, Config.take_channel_other, Config.move_channel_self,
        Config.take_channel_self]
      rcases settled.stands side.other with loggedOn | ⟨unconfirmed, awaited⟩
      · exact .inl loggedOn
      · rw [Side.other_other] at awaited
        exact .inr ⟨unconfirmed, answers awaited⟩

theorem Answering.append {own others : List Packet} (awaited : Answering own others)
    (more : List Packet) : Answering own (others ++ more) := by
  rcases awaited with here | ⟨packet, member, request⟩
  · exact .inl here
  · exact .inr ⟨packet, List.mem_append_left _ member, request⟩

theorem Answering.append_own {own others : List Packet}
    (awaited : Answering own others) (more : List Packet) :
    Answering (own ++ more) others := by
  rcases awaited with ⟨packet, member, answer⟩ | there
  · exact .inl ⟨packet, List.mem_append_left _ member, answer⟩
  · exact .inr there

/-- A packet that is no Heartbeat was not awaited by the side that it reaches. -/
theorem Answering.tail {packet : Packet} {rest others : List Packet}
    (awaited : Answering (packet :: rest) others)
    (differs : ∀ testReqID, packet.payload ≠ .heartbeat testReqID) :
    Answering rest others := by
  rcases awaited with ⟨answer, member, testReqID, answers⟩ | there
  · rcases List.mem_cons.mp member with same | later
    · exact absurd (same ▸ answers) (differs testReqID)
    · exact .inl ⟨answer, later, testReqID, answers⟩
  · exact .inr there

theorem Answering.tail_others {packet : Packet} {own rest : List Packet}
    (awaited : Answering own (packet :: rest))
    (differs : ∀ testReqID, packet.payload ≠ .testRequest testReqID) :
    Answering own rest := by
  rcases awaited with here | ⟨request, member, testReqID, requests⟩
  · exact .inl here
  · rcases List.mem_cons.mp member with same | later
    · exact absurd (same ▸ requests) (differs testReqID)
    · exact .inr ⟨request, later, testReqID, requests⟩

theorem deliver_eq {model : Model} {side : Side} {packet : Packet} {rest sent : List Packet}
    {next : Peer} (waiting : model.channel side = packet :: rest)
    (receives : Peer.receive packet (model.state side) = some ((), next, sent)) :
    model.deliver react side = some ((model.take side rest).move side next sent) :=
  Config.deliver_eq waiting
    (Option.map_eq_some_iff.mpr ⟨((), next, sent), receives, rfl⟩)

/-- What a packet of the traffic may still cause, itself included. -/
def burden : Payload → Nat
  | .testRequest _ => 2
  | _ => 1

def weight (packets : List Packet) : Nat :=
  (packets.map fun packet => burden packet.payload).sum

def load (model : Model) : Nat :=
  weight (model.channel .left) + weight (model.channel .right)

/-- A delivery after which less is to be delivered.  A number is used only for
what was still to be caused. -/
structure Lighter (model after : Model) : Prop where
  load : load after < load model
  outgoing : ∀ side, (after.state side).outgoing + Pair.load after ≤
    (model.state side).outgoing + Pair.load model

theorem lighter_move {model : Model} {side : Side} {packet : Packet}
    {rest sent : List Packet} {next : Peer}
    (waiting : model.channel side = packet :: rest)
    (light : 2 * weight sent ≤ burden packet.payload)
    (outgoing : next.outgoing ≤ (model.state side).outgoing + weight sent) :
    Lighter model ((model.take side rest).move side next sent) := by
  have positive : 0 < burden packet.payload := by
    cases packet.payload with
    | testRequest _ => exact Nat.two_pos
    | _ => exact Nat.one_pos
  have balance : load ((model.take side rest).move side next sent) +
      burden packet.payload = load model + weight sent := by
    cases side with
    | left =>
        change weight rest + weight (model.channel .right ++ sent) + _ =
          weight (model.channel .left) + weight (model.channel .right) + _
        rw [waiting]
        unfold weight
        rw [List.map_append, List.sum_append, List.map_cons, List.sum_cons]
        omega
    | right =>
        change weight (model.channel .left ++ sent) + weight rest + _ =
          weight (model.channel .left) + weight (model.channel .right) + _
        rw [waiting]
        unfold weight
        rw [List.map_append, List.sum_append, List.map_cons, List.sum_cons]
        omega
  refine ⟨by omega, ?_⟩
  intro chosen
  by_cases same : chosen = side
  · rw [same, Config.move_state_self]
    omega
  · rw [Side.eq_other_of_ne same, Config.move_state_other, Config.take_state]
    omega

theorem Settled.deliver {model : Model} {side : Side} {packet : Packet}
    {rest : List Packet} (settled : Settled model)
    (waiting : model.channel side = packet :: rest)
    (fits : fitsWire (model.state side).outgoing) :
    ∃ after, model.deliver react side = some after ∧ Settled after ∧
      Lighter model after := by
  have numbered := settled.consecutive side
  rw [waiting] at numbered
  obtain ⟨number, others⟩ := numbered
  have left : ∀ other ∈ rest, other ∈ model.channel side := by
    intro other member
    rw [waiting]
    exact List.mem_cons_of_mem _ member
  have kind := settled.traffic side packet (waiting ▸ List.mem_cons_self)
  have stands := settled.stands side
  have answers := settled.stands side.other
  rw [waiting] at stands
  rcases packet with ⟨_, payload⟩
  cases number
  have admits := Peer.admits_of_logonReceived payload (settled.seen side)
  cases payload with
  | heartbeat testReqID =>
      have ready : (model.state side).state = .loggedOn ∨
          (model.state side).state = .loggingOn ∨ (model.state side).state = .resetting ∨
          (model.state side).state = .resending := by
        rcases stands with loggedOn | ⟨unconfirmed, -⟩
        · exact .inl loggedOn
        · exact .inr unconfirmed
      refine ⟨_, deliver_eq waiting (Peer.receive_heartbeat admits kind ready), ?_,
        lighter_move waiting (Nat.zero_le _) (Nat.le_refl _)⟩
      refine settled.move ⟨rfl, rfl, rfl⟩ left others rfl (by simp) (.inl rfl) ?_
      intro awaited
      rw [waiting] at awaited
      exact (awaited.tail_others (by simp)).append_own []
  | testRequest testReqID =>
      refine ⟨_, deliver_eq waiting (Peer.receive_testRequest admits fits), ?_,
        lighter_move waiting (Nat.le_refl _) (Nat.le_refl _)⟩
      refine settled.move ⟨rfl, rfl, rfl⟩ left others ⟨rfl, rfl⟩ ?_ ?_ ?_
      · intro answer member
        rw [List.mem_singleton.mp member]
        intro received same
        cases same
        exact kind
      · rcases stands with loggedOn | ⟨unconfirmed, awaited⟩
        · exact .inl loggedOn
        · exact .inr ⟨unconfirmed, (awaited.tail (by simp)).append _⟩
      · intro _
        exact .inl ⟨_, List.mem_append_right _ (List.mem_singleton_self _), _, rfl⟩
  | application =>
      refine ⟨_, deliver_eq waiting (Peer.receive_application admits), ?_,
        lighter_move waiting (Nat.zero_le _) (Nat.le_refl _)⟩
      refine settled.move ⟨rfl, rfl, rfl⟩ left others rfl (by simp) ?_ ?_
      · rcases stands with loggedOn | ⟨unconfirmed, awaited⟩
        · exact .inl loggedOn
        · exact .inr ⟨unconfirmed, (awaited.tail (by simp)).append _⟩
      · intro awaited
        rw [waiting] at awaited
        exact (awaited.tail_others (by simp)).append_own []
  | logon _ _ _ | resendRequest _ _ | gapFill _ | reject => exact kind.elim

theorem Settled.send {model : Model} {side : Side} {payload : Payload}
    (settled : Settled model) (loggedOn : (model.state side).state = .loggedOn)
    (plain : payload = .application ∨ payload = .heartbeat none)
    (fits : fitsWire (model.state side).outgoing) :
    ∃ after, model.act side (Peer.send payload).respond = some after ∧
      Settled after := by
  have quiet : payload.resets = false ∧ payload.readable ∧
      Traffic (model.state side.other).expectedTestRequestId
        (model.state side).expectedTestRequestId payload := by
    rcases plain with application | heartbeat
    · rw [application]
      exact ⟨rfl, rfl, trivial⟩
    · rw [heartbeat]
      exact ⟨rfl, rfl, fun received absent => nomatch absent⟩
  obtain ⟨resets, readable, traffic⟩ := quiet
  have sends := Peer.send_eq resets (Peer.readable_of_fitsWire fits readable)
  refine ⟨_, Option.map_eq_some_iff.mpr
    ⟨_, Option.map_eq_some_iff.mpr ⟨_, sends, rfl⟩, rfl⟩, ?_⟩
  have moves : Settled ((model.take side (model.channel side)).move side
      { model.state side with outgoing := (model.state side).outgoing + 1 }
      [⟨(model.state side).outgoing, payload⟩]) := by
    refine settled.move ⟨rfl, rfl, rfl⟩ (fun _ member => member)
      (settled.consecutive side) ⟨rfl, rfl⟩ ?_ (.inl loggedOn) ?_
    · intro packet member
      rw [List.mem_singleton.mp member]
      exact traffic
    · intro awaited
      exact awaited.append_own _
  rw [Config.take_self] at moves
  exact moves

theorem Settled.connected {model : Model} (settled : Settled model) (side : Side) :
    (model.state side).state ≠ .disconnected := by
  intro disconnected
  rcases settled.stands side with loggedOn | ⟨unconfirmed, -⟩
  · cases disconnected.symm.trans loggedOn
  · rw [disconnected] at unconfirmed
    rcases unconfirmed with absurd | absurd | absurd <;> cases absurd

theorem Settled.loggedOn {model : Model} (settled : Settled model)
    (quiet : model.Quiet) (side : Side) : (model.state side).state = .loggedOn := by
  rcases settled.stands side with loggedOn | ⟨-, awaited⟩
  · exact loggedOn
  · rw [quiet side, quiet side.other] at awaited
    rcases awaited with ⟨_, absent, -⟩ | ⟨_, absent, -⟩
    · cases absent
    · cases absent

theorem Settled.settles {model : Model} (settled : Settled model)
    (fits : ∀ side, (model.state side).outgoing + load model < 2147483648) :
    ∃ count last, Delivers react count model last ∧ last.Quiet ∧ Settled last := by
  obtain ⟨total, loaded⟩ : ∃ total, load model = total := ⟨_, rfl⟩
  induction total using Nat.strong_induction_on generalizing model with
  | _ total ih =>
      by_cases quiet : model.Quiet
      · exact ⟨0, model, .rest model, quiet, settled⟩
      · obtain ⟨side, waiting⟩ := not_forall.mp quiet
        obtain ⟨packet, rest, shape⟩ := List.exists_cons_of_ne_nil waiting
        have within : fitsWire (model.state side).outgoing :=
          decide_eq_true (Nat.lt_of_le_of_lt (Nat.le_add_right _ _) (fits side))
        obtain ⟨after, delivered, still, lighter⟩ := settled.deliver shape within
        have fewer : load after < total := loaded ▸ lighter.load
        obtain ⟨count, last, run, rest⟩ := ih _ fewer still
          (fun chosen => Nat.lt_of_le_of_lt (lighter.outgoing chosen) (fits chosen)) rfl
        exact ⟨count + 1, last, .next side delivered run, rest⟩

end Pair

end Crocofix
