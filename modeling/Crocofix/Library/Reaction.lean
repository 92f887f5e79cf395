/-
Programs on a state that may be undefined and that send messages, and calls
that follow such programs.

A call follows a program from a state when, should the program be defined
there, the call returns the same value, ends in a state in which the program's
can be seen, and has sent what the program sends.
-/

import Mathlib.Data.List.Forall2
import Crocofix.Library.Call
import Crocofix.Library.Network

namespace Crocofix

/-- From a state, the value, the state afterwards and what was sent. -/
def Reaction (τ μ α : Type) : Type := τ → Option (α × τ × List μ)

namespace Reaction

variable {τ μ α β : Type}

instance : Monad (Reaction τ μ) where
  pure value := fun state => some (value, state, [])
  bind reaction next := fun state =>
    (reaction state).bind fun (value, middle, sent) =>
      (next value middle).map fun (last, after, more) => (last, after, sent ++ more)

def get : Reaction τ μ τ := fun state => some (state, state, [])

def modify (change : τ → τ) : Reaction τ μ Unit :=
  fun state => some ((), change state, [])

def emit (message : μ) : Reaction τ μ Unit := fun state => some ((), state, [message])

def undefined : Reaction τ μ α := fun _ => none

def onlyIf (condition : Prop) [Decidable condition] (reaction : Reaction τ μ Unit) :
    Reaction τ μ Unit :=
  if condition then reaction else pure ()

def respond (reaction : Reaction τ μ Unit) (state : τ) : Network.Response τ μ :=
  (reaction state).map fun (_, after, sent) => (after, sent)

@[simp] theorem pure_apply (value : α) (state : τ) :
    (pure value : Reaction τ μ α) state = some (value, state, []) := rfl

@[simp] theorem get_apply (state : τ) :
    (get : Reaction τ μ τ) state = some (state, state, []) := rfl

@[simp] theorem modify_apply (change : τ → τ) (state : τ) :
    (modify change : Reaction τ μ Unit) state = some ((), change state, []) := rfl

theorem bind_apply (reaction : Reaction τ μ α) (next : α → Reaction τ μ β)
    (state : τ) :
    (reaction >>= next) state =
      (reaction state).bind fun (value, middle, sent) =>
        (next value middle).map fun (last, after, more) =>
          (last, after, sent ++ more) := rfl

theorem bind_of_some {reaction : Reaction τ μ α} {next : α → Reaction τ μ β}
    {state middle : τ} {value : α} {sent : List μ}
    (reacts : reaction state = some (value, middle, sent)) :
    (reaction >>= next) state =
      (next value middle).map fun (last, after, more) =>
        (last, after, sent ++ more) := by
  rw [bind_apply, reacts]
  rfl

@[simp] theorem pure_bind (value : α) (next : α → Reaction τ μ β) :
    (pure value : Reaction τ μ α) >>= next = next value := by
  funext state
  rw [bind_of_some (pure_apply value state)]
  simp

@[simp] theorem get_bind (next : τ → Reaction τ μ β) (state : τ) :
    ((get : Reaction τ μ τ) >>= next) state = next state state := by
  rw [bind_of_some (get_apply state)]
  simp

@[simp] theorem modify_bind (change : τ → τ) (next : Unit → Reaction τ μ β)
    (state : τ) :
    ((modify change : Reaction τ μ Unit) >>= next) state =
      next () (change state) := by
  rw [bind_of_some (modify_apply change state)]
  simp

theorem bind_eq_some {reaction : Reaction τ μ α} {next : α → Reaction τ μ β}
    {state after : τ} {last : β} {sent : List μ}
    (reacts : (reaction >>= next) state = some (last, after, sent)) :
    ∃ value middle early late, reaction state = some (value, middle, early) ∧
      next value middle = some (last, after, late) ∧ sent = early ++ late := by
  obtain ⟨⟨value, middle, early⟩, first, rest⟩ := Option.bind_eq_some_iff.mp reacts
  obtain ⟨⟨other, final, late⟩, second, same⟩ := Option.map_eq_some_iff.mp rest
  cases same
  exact ⟨value, middle, early, late, first, second, rfl⟩

/-! ### What a program keeps -/

structure Preserves (holds : τ → Prop) (reaction : Reaction τ μ α) : Prop where
  kept : ∀ state value after sent, reaction state = some (value, after, sent) →
    holds state → holds after

variable {holds : τ → Prop}

theorem preserves_pure (value : α) :
    Preserves holds (pure value : Reaction τ μ α) := by
  constructor
  intro state other after sent reacts initially
  cases reacts
  exact initially

theorem preserves_undefined : Preserves holds (undefined : Reaction τ μ α) := by
  constructor
  intro state value after sent reacts
  cases reacts

theorem preserves_emit (message : μ) : Preserves holds (emit message) := by
  constructor
  intro state value after sent reacts initially
  cases reacts
  exact initially

theorem preserves_modify {change : τ → τ} (kept : ∀ state, holds state → holds (change state)) :
    Preserves holds (modify change : Reaction τ μ Unit) := by
  constructor
  intro state value after sent reacts initially
  cases reacts
  exact kept state initially

theorem Preserves.bind {reaction : Reaction τ μ α} {next : α → Reaction τ μ β}
    (first : Preserves holds reaction) (second : ∀ value, Preserves holds (next value)) :
    Preserves holds (reaction >>= next) := by
  constructor
  intro state last after sent reacts initially
  obtain ⟨value, middle, early, late, starts, ends, -⟩ := bind_eq_some reacts
  exact (second value).kept middle last after late ends
    (first.kept state value middle early starts initially)

theorem Preserves.of_modify {change : τ → τ} {next : Unit → Reaction τ μ β}
    (kept : ∀ state, holds state → holds (change state))
    (rest : Preserves holds (next ())) : Preserves holds (modify change >>= next) :=
  (preserves_modify kept).bind fun _ => rest

theorem Preserves.of_get {next : τ → Reaction τ μ β}
    (rest : ∀ state, Preserves holds (next state)) : Preserves holds (get >>= next) := by
  constructor
  intro state last after sent reacts initially
  rw [get_bind] at reacts
  exact (rest state).kept state last after sent reacts initially

theorem Preserves.ite {condition : Prop} [Decidable condition]
    {left right : Reaction τ μ α} (first : Preserves holds left)
    (second : Preserves holds right) :
    Preserves holds (if condition then left else right) := by
  split
  · exact first
  · exact second

theorem Preserves.onlyIf {condition : Prop} [Decidable condition]
    {reaction : Reaction τ μ Unit} (kept : Preserves holds reaction) :
    Preserves holds (Reaction.onlyIf condition reaction) :=
  kept.ite (preserves_pure ())

end Reaction

structure Observation (σ τ μ : Type) where
  view : σ → τ
  sends : σ → σ → List μ → Prop
  silent : ∀ state, sends state state []
  append : ∀ {first second third early late}, sends first second early →
    sends second third late → sends first third (early ++ late)

namespace Observation

variable {ε σ τ μ α β : Type} (observation : Observation σ τ μ)

/-- Where the reaction is defined on what is seen, the call does the same. -/
def Refines (call : Call ε σ α) (reaction : Reaction τ μ α) (state : σ) : Prop :=
  ∀ value next sent, reaction (observation.view state) = some (value, next, sent) →
    ∃ after, call state = (.ok value, after) ∧ observation.view after = next ∧
      observation.sends state after sent

variable {observation}

theorem refines_pure (value : α) (state : σ) :
    observation.Refines (pure value : Call ε σ α) (pure value) state := by
  intro other next sent reacts
  cases reacts
  exact ⟨state, rfl, rfl, observation.silent state⟩

theorem refines_undefined (call : Call ε σ α) (state : σ) :
    observation.Refines call Reaction.undefined state := by
  intro value next sent reacts
  cases reacts

theorem Refines.bind {call : Call ε σ α} {next : α → Call ε σ β}
    {reaction : Reaction τ μ α} {modelled : α → Reaction τ μ β} {state : σ}
    (first : observation.Refines call reaction state)
    (second : ∀ value after, observation.Refines (next value) (modelled value) after) :
    observation.Refines (call >>= next) (reaction >>= modelled) state := by
  intro last final sent reacts
  obtain ⟨value, seen, early, late, starts, ends, rfl⟩ :=
    Reaction.bind_eq_some reacts
  obtain ⟨middle, run, rfl, earlySent⟩ := first value seen early starts
  obtain ⟨after, rest, same, lateSent⟩ := second value middle last final late ends
  rw [Call.bind_of_ok run]
  exact ⟨after, rest, same, observation.append earlySent lateSent⟩

theorem Refines.of_start {next : σ → Call ε σ β} {modelled : τ → Reaction τ μ β}
    {state : σ}
    (second : observation.Refines (next state) (modelled (observation.view state))
      state) :
    observation.Refines (Call.get >>= next) (Reaction.get >>= modelled) state := by
  intro value final sent reacts
  rw [Reaction.get_bind] at reacts
  exact second value final sent reacts

theorem Refines.of_get {next : σ → Call ε σ α} {reaction : Reaction τ μ α} {state : σ}
    (rest : observation.Refines (next state) reaction state) :
    observation.Refines (Call.get >>= next) reaction state := rest

theorem Refines.of_read {call : Call ε σ α} {modelled : τ → Reaction τ μ α} {state : σ}
    (rest : observation.Refines call (modelled (observation.view state)) state) :
    observation.Refines call (Reaction.get >>= modelled) state := by
  intro value final sent reacts
  rw [Reaction.get_bind] at reacts
  exact rest value final sent reacts

/-- The call does something first that cannot be seen. -/
theorem Refines.after_silent {call : Call ε σ α} {next : α → Call ε σ β}
    {reaction : Reaction τ μ β} {state after : σ} {value : α}
    (run : call state = (.ok value, after))
    (unseen : observation.view after = observation.view state)
    (silent : observation.sends state after [])
    (second : observation.Refines (next value) reaction after) :
    observation.Refines (call >>= next) reaction state := by
  intro last final sent reacts
  rw [← unseen] at reacts
  obtain ⟨last', rest, same, lateSent⟩ := second last final sent reacts
  rw [Call.bind_of_ok run]
  exact ⟨last', rest, same, observation.append silent lateSent⟩

theorem Refines.before_silent {call : Call ε σ Unit} {next : Unit → Call ε σ Unit}
    {reaction : Reaction τ μ Unit} {state : σ}
    (first : observation.Refines call reaction state)
    (second : ∀ after, observation.Refines (next ()) (pure ()) after) :
    observation.Refines (call >>= next) reaction state := by
  intro value seen sent reacts
  obtain ⟨middle, run, rfl, earlySent⟩ := first value seen sent reacts
  obtain ⟨after, rest, same, lateSent⟩ := second middle () _ _ rfl
  rw [Call.bind_of_ok run]
  refine ⟨after, rest, same, ?_⟩
  rw [← List.append_nil sent]
  exact observation.append earlySent lateSent

theorem Refines.of_change {call : Call ε σ Unit} {state after : σ} {change : τ → τ}
    (run : call state = (.ok (), after))
    (seen : observation.view after = change (observation.view state))
    (silent : observation.sends state after []) :
    observation.Refines call (Reaction.modify change) state := by
  intro value next sent reacts
  cases reacts
  exact ⟨after, run, seen, silent⟩

theorem Refines.ite {condition modelled : Prop} [Decidable condition]
    [Decidable modelled] {positive negative : Call ε σ α}
    {positiveReaction negativeReaction : Reaction τ μ α} {state : σ}
    (same : condition ↔ modelled)
    (first : condition → observation.Refines positive positiveReaction state)
    (second : ¬ condition → observation.Refines negative negativeReaction state) :
    observation.Refines (if condition then positive else negative)
      (if modelled then positiveReaction else negativeReaction) state := by
  by_cases holds : condition
  · rw [if_pos holds, if_pos (same.mp holds)]
    exact first holds
  · rw [if_neg holds, if_neg fun other => holds (same.mpr other)]
    exact second holds

theorem Refines.onlyIf {condition modelled : Prop} [Decidable condition]
    [Decidable modelled] {call : Call ε σ Unit} {reaction : Reaction τ μ Unit}
    {state : σ} (same : condition ↔ modelled)
    (refines : condition → observation.Refines call reaction state) :
    observation.Refines (Call.onlyIf condition call)
      (Reaction.onlyIf modelled reaction) state := by
  apply Refines.ite same refines
  intro _
  exact refines_pure () state

end Observation

end Crocofix
