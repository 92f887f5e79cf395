/-
Two machines joined by channels that lose nothing and keep the order.

A machine may be undefined on a message.  Deliveries to different sides do not
disturb each other, so once one order of deliveries comes to rest, every order
is defined throughout and comes to the same rest.
-/

import Mathlib.Data.List.Forall2
import Mathlib.Logic.Function.Basic

namespace Crocofix

namespace Network

inductive Side
  | left
  | right
deriving DecidableEq, Repr

namespace Side

def other : Side → Side
  | .left => .right
  | .right => .left

@[simp] theorem other_other (side : Side) : side.other.other = side := by
  cases side <;> rfl

@[simp] theorem other_ne (side : Side) : side.other ≠ side := by
  cases side <;> simp [other]

@[simp] theorem ne_other (side : Side) : side ≠ side.other :=
  (other_ne side).symm

theorem eq_other_of_ne {side chosen : Side} (differ : chosen ≠ side) :
    chosen = side.other := by
  cases side <;> cases chosen <;> first | rfl | exact absurd rfl differ

end Side

/-- What a side does: the state that it goes to, and what it sends. -/
abbrev Response (σ μ : Type) : Type := Option (σ × List μ)

/-- The states of both sides, and what is on its way to either of them. -/
structure Config (σ μ : Type) where
  state : Side → σ
  channel : Side → List μ

namespace Config

variable {σ μ : Type}

def move (config : Config σ μ) (side : Side) (next : σ) (sent : List μ) :
    Config σ μ where
  state := Function.update config.state side next
  channel := Function.update config.channel side.other
    (config.channel side.other ++ sent)

def take (config : Config σ μ) (side : Side) (rest : List μ) : Config σ μ :=
  { config with channel := Function.update config.channel side rest }

def act (config : Config σ μ) (side : Side) (reaction : σ → Response σ μ) :
    Option (Config σ μ) :=
  (reaction (config.state side)).map fun (next, sent) => config.move side next sent

def deliver (receive : Side → μ → σ → Response σ μ) (config : Config σ μ)
    (side : Side) : Option (Config σ μ) :=
  match config.channel side with
  | [] => none
  | message :: rest =>
      (config.take side rest).act side (receive side message)

structure Delivery (receive : Side → μ → σ → Response σ μ)
    (config after : Config σ μ) (side : Side) (message : μ) (rest : List μ)
    (next : σ) (sent : List μ) : Prop where
  waiting : config.channel side = message :: rest
  reacts : receive side message (config.state side) = some (next, sent)
  state : after.state side = next
  stateOther : after.state side.other = config.state side.other
  channel : after.channel side = rest
  channelOther : after.channel side.other = config.channel side.other ++ sent

def Quiet (config : Config σ μ) : Prop := ∀ side, config.channel side = []

section Moves

variable {config after : Config σ μ} {side : Side} {next : σ} {sent : List μ}

@[simp] theorem take_state (rest : List μ) :
    (config.take side rest).state = config.state := rfl

@[simp] theorem take_channel_self (rest : List μ) :
    (config.take side rest).channel side = rest :=
  Function.update_self ..

@[simp] theorem take_channel_other (rest : List μ) :
    (config.take side rest).channel side.other = config.channel side.other :=
  Function.update_of_ne side.other_ne ..

theorem take_self (config : Config σ μ) (side : Side) :
    config.take side (config.channel side) = config := by
  unfold take
  rw [Function.update_eq_self]

theorem move_self (config : Config σ μ) (side : Side) :
    config.move side (config.state side) [] = config := by
  unfold move
  rw [Function.update_eq_self, List.append_nil, Function.update_eq_self]

@[simp] theorem move_state_self : (config.move side next sent).state side = next :=
  Function.update_self ..

@[simp] theorem move_state_other :
    (config.move side next sent).state side.other = config.state side.other :=
  Function.update_of_ne side.other_ne ..

@[simp] theorem move_channel_self :
    (config.move side next sent).channel side = config.channel side :=
  Function.update_of_ne side.ne_other ..

@[simp] theorem move_channel_other :
    (config.move side next sent).channel side.other =
      config.channel side.other ++ sent :=
  Function.update_self ..

theorem act_eq_some {reaction : σ → Response σ μ}
    (acted : config.act side reaction = some after) :
    ∃ next sent, reaction (config.state side) = some (next, sent) ∧
      after = config.move side next sent := by
  obtain ⟨⟨next, sent⟩, reacts, rfl⟩ := Option.map_eq_some_iff.mp acted
  exact ⟨next, sent, reacts, rfl⟩

variable {receive : Side → μ → σ → Response σ μ}

theorem deliver_eq_some (delivered : config.deliver receive side = some after) :
    ∃ message rest next sent,
      Delivery receive config after side message rest next sent := by
  unfold deliver at delivered
  split at delivered
  · cases delivered
  · next message rest waiting =>
      obtain ⟨next, sent, reacts, rfl⟩ := act_eq_some delivered
      exact ⟨message, rest, next, sent, waiting, reacts, by simp, by simp, by simp,
        by simp⟩

theorem deliver_eq {message : μ} {rest : List μ}
    (waiting : config.channel side = message :: rest)
    (reacts : receive side message (config.state side) = some (next, sent)) :
    config.deliver receive side = some ((config.take side rest).move side next sent) := by
  unfold deliver
  rw [waiting]
  exact Option.map_eq_some_iff.mpr ⟨(next, sent), reacts, rfl⟩

theorem deliver_of_receives {message : μ} {rest : List μ}
    (waiting : config.channel side = message :: rest)
    (reacts : receive side message (config.state side) = some (next, sent)) :
    ∃ after, config.deliver receive side = some after :=
  ⟨_, deliver_eq waiting reacts⟩

theorem delivery_of_eq_some {message : μ} {rest : List μ}
    (delivered : config.deliver receive side = some after)
    (waiting : config.channel side = message :: rest)
    (reacts : receive side message (config.state side) = some (next, sent)) :
    Delivery receive config after side message rest next sent := by
  obtain ⟨_, _, _, _, delivery⟩ := deliver_eq_some delivered
  have shape := delivery.waiting
  rw [waiting] at shape
  cases shape
  have answer := delivery.reacts
  rw [reacts] at answer
  cases answer
  exact delivery

theorem ext_side {left right : Config σ μ} (side : Side)
    (own : left.state side = right.state side)
    (others : left.state side.other = right.state side.other)
    (toOwn : left.channel side = right.channel side)
    (toOther : left.channel side.other = right.channel side.other) :
    left = right := by
  rcases left with ⟨leftState, leftChannel⟩
  rcases right with ⟨rightState, rightChannel⟩
  have states : leftState = rightState := by
    funext chosen
    by_cases same : chosen = side
    · rw [same]
      exact own
    · rw [Side.eq_other_of_ne same]
      exact others
  have channels : leftChannel = rightChannel := by
    funext chosen
    by_cases same : chosen = side
    · rw [same]
      exact toOwn
    · rw [Side.eq_other_of_ne same]
      exact toOther
  rw [states, channels]

end Moves

end Config

/-! ### Orders of deliveries -/

section Orders

variable {σ μ : Type} {receive : Side → μ → σ → Response σ μ}

inductive Delivers (receive : Side → μ → σ → Response σ μ) :
    Nat → Config σ μ → Config σ μ → Prop
  | rest (config : Config σ μ) : Delivers receive 0 config config
  | next {count : Nat} {first middle last : Config σ μ} (side : Side)
      (delivered : first.deliver receive side = some middle)
      (others : Delivers receive count middle last) :
      Delivers receive (count + 1) first last

/-- Deliveries to both sides can be made in either order. -/
theorem deliver_comm {config own others : Config σ μ} {side : Side}
    (here : config.deliver receive side = some own)
    (there : config.deliver receive side.other = some others) :
    ∃ both, own.deliver receive side.other = some both ∧
      others.deliver receive side = some both := by
  obtain ⟨message, rest, next, sent, own⟩ := Config.deliver_eq_some here
  obtain ⟨message', rest', next', sent', theirs⟩ := Config.deliver_eq_some there
  have ownWaits := own.channelOther
  have theirsWaits := theirs.channelOther
  rw [theirs.waiting, List.cons_append] at ownWaits
  rw [Side.other_other, own.waiting, List.cons_append] at theirsWaits
  have theirsState := theirs.stateOther
  rw [Side.other_other] at theirsState
  have reacts := own.reacts
  have reacts' := theirs.reacts
  rw [← own.stateOther] at reacts'
  rw [← theirsState] at reacts
  obtain ⟨first, one⟩ := Config.deliver_of_receives ownWaits reacts'
  obtain ⟨second, two⟩ := Config.deliver_of_receives theirsWaits reacts
  refine ⟨first, one, ?_⟩
  have oneMoves := Config.delivery_of_eq_some one ownWaits reacts'
  have twoMoves := Config.delivery_of_eq_some two theirsWaits reacts
  have oneOther := oneMoves.stateOther
  have oneSent := oneMoves.channelOther
  rw [Side.other_other] at oneOther oneSent
  have same : first = second := by
    apply Config.ext_side side
    · rw [oneOther, own.state, twoMoves.state]
    · rw [oneMoves.state, twoMoves.stateOther, theirs.state]
    · rw [oneSent, own.channel, twoMoves.channel]
    · rw [oneMoves.channel, twoMoves.channelOther, theirs.channel]
  rw [same]
  exact two

theorem Config.Quiet.deliver_eq_none {config : Config σ μ} (quiet : config.Quiet)
    (receive : Side → μ → σ → Response σ μ) (side : Side) :
    config.deliver receive side = none := by
  unfold Config.deliver
  rw [quiet side]

/-- A delivery that is possible can be made first. -/
theorem Delivers.exchange {count : Nat} {config last after : Config σ μ}
    {side : Side} (run : Delivers receive count config last) (quiet : last.Quiet)
    (delivered : config.deliver receive side = some after) :
    ∃ fewer, count = fewer + 1 ∧ Delivers receive fewer after last := by
  induction run generalizing after with
  | rest config =>
      rw [quiet.deliver_eq_none] at delivered
      cases delivered
  | @next count first middle last chosen made others ih =>
      by_cases same : chosen = side
      · rw [← same, made] at delivered
        cases delivered
        exact ⟨count, rfl, others⟩
      · rw [Side.eq_other_of_ne same] at made
        obtain ⟨both, earlier, later⟩ := deliver_comm delivered made
        obtain ⟨fewer, rfl, rest⟩ := ih quiet later
        exact ⟨fewer + 1, rfl, .next side.other earlier rest⟩

theorem Delivers.progress {count : Nat} {config last : Config σ μ} {side : Side}
    (run : Delivers receive count config last) (quiet : last.Quiet)
    (waiting : config.channel side ≠ []) :
    ∃ after, config.deliver receive side = some after := by
  induction run with
  | rest config => exact absurd (quiet side) waiting
  | @next count first middle last chosen made others ih =>
      by_cases same : chosen = side
      · rw [← same]
        exact ⟨middle, made⟩
      · rw [Side.eq_other_of_ne same] at made
        obtain ⟨_, _, _, sent, others⟩ := Config.deliver_eq_some made
        have kept := others.stateOther
        have grown := others.channelOther
        rw [Side.other_other] at kept grown
        obtain ⟨message, rest, shape⟩ := List.exists_cons_of_ne_nil waiting
        rw [shape, List.cons_append] at grown
        obtain ⟨after, later⟩ := ih quiet (by simp [grown])
        obtain ⟨_, _, _, _, delivery⟩ := Config.deliver_eq_some later
        have front := delivery.waiting
        rw [grown] at front
        cases front
        have reacts := delivery.reacts
        rw [kept] at reacts
        exact Config.deliver_of_receives shape reacts

/-- What every reaction keeps of a side's state, every order of deliveries keeps. -/
theorem Delivers.keeps {holds : σ → Prop} {count : Nat} {config last : Config σ μ}
    (kept : ∀ side message state next sent, receive side message state = some (next, sent) →
      holds state → holds next)
    (run : Delivers receive count config last) (initially : ∀ side, holds (config.state side))
    (side : Side) : holds (last.state side) := by
  induction run with
  | rest config => exact initially side
  | next chosen delivered others ih =>
      apply ih
      obtain ⟨_, _, _, _, delivery⟩ := Config.deliver_eq_some delivered
      intro other
      by_cases same : other = chosen
      · rw [same, delivery.state]
        exact kept _ _ _ _ _ delivery.reacts (initially chosen)
      · rw [Side.eq_other_of_ne same, delivery.stateOther]
        exact initially chosen.other

/-- One order of deliveries that comes to rest decides where all of them do. -/
theorem Delivers.eq_of_quiet {count : Nat} {config last : Config σ μ}
    (run : Delivers receive count config last) (quiet : config.Quiet) :
    config = last := by
  cases run with
  | rest => rfl
  | next side delivered others =>
      rw [quiet.deliver_eq_none] at delivered
      cases delivered

end Orders

/-! ### Machines that follow other machines -/

section Simulation

variable {σ τ μ ν : Type} (represents : Side → σ → τ → Prop)
  (presents : Side → μ → ν → Prop)

/-- Each side represents the other configuration's, and each message on its
way to a side presents the other one's. -/
structure Config.Follows (config : Config σ μ) (model : Config τ ν) : Prop where
  state : ∀ side, represents side (config.state side) (model.state side)
  channel : ∀ side,
    List.Forall₂ (presents side) (config.channel side) (model.channel side)

/-- Where the reaction of the model is defined, the side does the same. -/
def Mirrors (side : Side) (reaction : σ → Response σ μ) (model : τ → Response τ ν) :
    Prop :=
  ∀ state seen next sent, represents side state seen →
    model seen = some (next, sent) →
    ∃ after out, reaction state = some (after, out) ∧
      represents side after next ∧ List.Forall₂ (presents side.other) out sent

variable {represents presents}

theorem Config.Follows.move {config : Config σ μ} {model : Config τ ν}
    (follows : config.Follows represents presents model) {side : Side} {after : σ}
    {next : τ} {out : List μ} {sent : List ν} (state : represents side after next)
    (sends : List.Forall₂ (presents side.other) out sent) :
    (config.move side after out).Follows represents presents
      (model.move side next sent) where
  state := by
    intro chosen
    by_cases same : chosen = side
    · rw [same, move_state_self, move_state_self]
      exact state
    · rw [Side.eq_other_of_ne same, move_state_other, move_state_other]
      exact follows.state side.other
  channel := by
    intro chosen
    by_cases same : chosen = side
    · rw [same, move_channel_self, move_channel_self]
      exact follows.channel side
    · rw [Side.eq_other_of_ne same, move_channel_other, move_channel_other]
      exact List.rel_append (follows.channel side.other) sends

theorem Config.Follows.act {config : Config σ μ} {model after : Config τ ν}
    (follows : config.Follows represents presents model) {side : Side}
    {reaction : σ → Response σ μ} {modelled : τ → Response τ ν}
    (mirrors : Mirrors represents presents side reaction modelled)
    (acted : model.act side modelled = some after) :
    ∃ next, config.act side reaction = some next ∧
      next.Follows represents presents after := by
  obtain ⟨state, sent, reacts, rfl⟩ := act_eq_some acted
  obtain ⟨own, out, does, represented, presented⟩ :=
    mirrors _ _ _ _ (follows.state side) reacts
  refine ⟨config.move side own out, ?_, follows.move represented presented⟩
  exact Option.map_eq_some_iff.mpr ⟨(own, out), does, rfl⟩

theorem Config.Follows.take {config : Config σ μ} {model : Config τ ν}
    (follows : config.Follows represents presents model) {side : Side}
    {rest : List μ} {packets : List ν}
    (left : List.Forall₂ (presents side) rest packets) :
    (config.take side rest).Follows represents presents
      (model.take side packets) where
  state := follows.state
  channel := by
    intro chosen
    by_cases same : chosen = side
    · rw [same, take_channel_self, take_channel_self]
      exact left
    · rw [Side.eq_other_of_ne same, take_channel_other, take_channel_other]
      exact follows.channel side.other

variable {receive : Side → μ → σ → Response σ μ}
  {react : Side → ν → τ → Response τ ν}

theorem Config.Follows.deliver {config : Config σ μ} {model after : Config τ ν}
    (follows : config.Follows represents presents model) {side : Side}
    (mirrors : ∀ message, ∀ packet ∈ model.channel side, presents side message packet →
      Mirrors represents presents side (receive side message) (react side packet))
    (delivered : model.deliver react side = some after) :
    ∃ next, config.deliver receive side = some next ∧
      next.Follows represents presents after := by
  unfold Config.deliver at delivered ⊢
  split at delivered
  · cases delivered
  · next packet packets waiting =>
      have related := follows.channel side
      rw [waiting] at related
      cases shape : config.channel side with
      | nil =>
          rw [shape] at related
          cases related
      | cons message rest =>
          rw [shape] at related
          obtain ⟨here, left⟩ := List.forall₂_cons.mp related
          have head : packet ∈ model.channel side := by
            rw [waiting]
            exact List.mem_cons_self
          exact (follows.take left).act (mirrors message packet head here) delivered

/-- Where the model comes to rest, so does every configuration that followed
it at first. -/
theorem Config.Follows.delivers {first config : Config σ μ} {model last : Config τ ν}
    {total count : Nat} (follows : first.Follows represents presents model)
    (mirrors : ∀ side message packet, presents side message packet →
      Mirrors represents presents side (receive side message) (react side packet))
    (run : Delivers react total model last) (quiet : last.Quiet)
    (reached : Delivers receive count first config) :
    ∃ middle fewer, config.Follows represents presents middle ∧
      Delivers react count model middle ∧ Delivers react fewer middle last := by
  induction reached generalizing model total with
  | rest config => exact ⟨model, total, follows, .rest model, run⟩
  | @next count first middle config side delivered others ih =>
      obtain ⟨_, _, _, _, delivery⟩ := Config.deliver_eq_some delivered
      have related := follows.channel side
      have waiting : model.channel side ≠ [] := by
        intro empty
        rw [delivery.waiting, empty] at related
        cases related
      obtain ⟨after, modelled⟩ := run.progress quiet waiting
      obtain ⟨next, made, followed⟩ := follows.deliver
        (fun message packet _ => mirrors side message packet) modelled
      rw [delivered] at made
      cases made
      obtain ⟨fewer, -, rest⟩ := run.exchange quiet modelled
      obtain ⟨middle, remaining, same, taken, left⟩ := ih followed rest
      exact ⟨middle, remaining, same, .next side modelled taken, left⟩

/-- What the model can come to, so can every configuration that follows it. -/
theorem Config.Follows.run {config : Config σ μ} {model last : Config τ ν} {count : Nat}
    (follows : config.Follows represents presents model)
    (mirrors : ∀ side message packet, presents side message packet →
      Mirrors represents presents side (receive side message) (react side packet))
    (run : Delivers react count model last) :
    ∃ reached, Delivers receive count config reached ∧
      reached.Follows represents presents last := by
  induction run generalizing config with
  | rest model => exact ⟨config, .rest config, follows⟩
  | next side delivered others ih =>
      obtain ⟨middle, made, followed⟩ := follows.deliver
        (fun message packet _ => mirrors side message packet) delivered
      obtain ⟨reached, later, still⟩ := ih followed
      exact ⟨reached, .next side made later, still⟩

theorem exists_related {relation : μ → ν → Prop} {messages : List μ}
    {packets : List ν} (related : List.Forall₂ relation messages packets) {message : μ}
    (member : message ∈ messages) : ∃ packet ∈ packets, relation message packet := by
  induction related with
  | nil => cases member
  | cons here others ih =>
      rcases List.mem_cons.mp member with same | later
      · exact ⟨_, List.mem_cons_self, same ▸ here⟩
      · obtain ⟨packet, inside, shown⟩ := ih later
        exact ⟨packet, List.mem_cons_of_mem _ inside, shown⟩

theorem Config.Follows.presented {config : Config σ μ} {model : Config τ ν}
    (follows : config.Follows represents presents model) {side : Side} {message : μ}
    (member : message ∈ config.channel side) :
    ∃ packet ∈ model.channel side, presents side message packet :=
  exists_related (follows.channel side) member

theorem Config.Follows.quiet {config : Config σ μ} {model : Config τ ν}
    (follows : config.Follows represents presents model) (quiet : config.Quiet) :
    model.Quiet := by
  intro side
  have related := follows.channel side
  rw [quiet side] at related
  exact List.forall₂_nil_left_iff.mp related

end Simulation

end Network

end Crocofix
