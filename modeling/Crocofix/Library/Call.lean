/-
Calls of functions that change an object and may throw.

A call that throws keeps the changes it made before the throw, so a call takes
a state to a result or an exception together with the state it leaves behind.
The rules say what a call keeps when each of its parts keeps it.
-/

import Mathlib.Order.Defs.Unbundled

namespace Crocofix

def Call (ε σ α : Type) : Type := σ → Except ε α × σ

namespace Call

variable {ε σ α β : Type}

instance : Monad (Call ε σ) where
  pure value := fun state => (.ok value, state)
  bind call next := fun state =>
    match call state with
    | (.error exception, after) => (.error exception, after)
    | (.ok value, after) => next value after

def get : Call ε σ σ := fun state => (.ok state, state)

def modify (change : σ → σ) : Call ε σ Unit := fun state => (.ok (), change state)

def raise (exception : ε) : Call ε σ α := fun state => (.error exception, state)

def ofExcept : Except ε α → Call ε σ α
  | .ok value => pure value
  | .error exception => raise exception

def onlyIf (condition : Prop) [Decidable condition] (call : Call ε σ Unit) :
    Call ε σ Unit :=
  if condition then call else pure ()

/-! ### Running a call -/

@[simp] theorem pure_apply (value : α) (state : σ) :
    (pure value : Call ε σ α) state = (.ok value, state) := rfl

@[simp] theorem get_apply (state : σ) :
    (get : Call ε σ σ) state = (.ok state, state) := rfl

@[simp] theorem modify_apply (change : σ → σ) (state : σ) :
    (modify change : Call ε σ Unit) state = (.ok (), change state) := rfl

@[simp] theorem raise_apply (exception : ε) (state : σ) :
    (raise exception : Call ε σ α) state = (.error exception, state) := rfl

@[simp] theorem ofExcept_ok (value : α) :
    (ofExcept (.ok value) : Call ε σ α) = pure value := rfl

@[simp] theorem ofExcept_error (exception : ε) :
    (ofExcept (.error exception) : Call ε σ α) = raise exception := rfl

theorem bind_apply (call : Call ε σ α) (next : α → Call ε σ β) (state : σ) :
    (call >>= next) state =
      match call state with
      | (.error exception, after) => (.error exception, after)
      | (.ok value, after) => next value after := rfl

theorem bind_of_ok {call : Call ε σ α} {state after : σ} {value : α}
    (returned : call state = (.ok value, after)) (next : α → Call ε σ β) :
    (call >>= next) state = next value after := by
  rw [bind_apply, returned]

theorem bind_of_error {call : Call ε σ α} {state after : σ} {exception : ε}
    (thrown : call state = (.error exception, after)) (next : α → Call ε σ β) :
    (call >>= next) state = (.error exception, after) := by
  rw [bind_apply, thrown]

theorem bind_fst {call : Call ε σ α} {next : α → Call ε σ β} {state : σ}
    {value : α} {result : Except ε β} (returned : (call state).1 = .ok value)
    (rest : ∀ after, (next value after).1 = result) :
    ((call >>= next) state).1 = result := by
  rw [bind_apply]
  revert returned
  generalize call state = called
  intro returned
  rcases called with ⟨_, after⟩
  cases returned
  exact rest after

theorem bind_fst_of_error {call : Call ε σ α} {state : σ} {exception : ε}
    (thrown : (call state).1 = .error exception) (next : α → Call ε σ β) :
    ((call >>= next) state).1 = .error exception := by
  rw [bind_apply]
  revert thrown
  generalize call state = called
  intro thrown
  rcases called with ⟨_, after⟩
  cases thrown
  rfl

@[simp] theorem pure_bind (value : α) (next : α → Call ε σ β) :
    (pure value : Call ε σ α) >>= next = next value := rfl

@[simp] theorem raise_bind (exception : ε) (next : α → Call ε σ β) :
    (raise exception : Call ε σ α) >>= next = raise exception := rfl

@[simp] theorem get_bind (next : σ → Call ε σ β) (state : σ) :
    ((get : Call ε σ σ) >>= next) state = next state state := rfl

@[simp] theorem modify_bind (change : σ → σ) (next : Unit → Call ε σ β)
    (state : σ) :
    ((modify change : Call ε σ Unit) >>= next) state = next () (change state) :=
  rfl

theorem bind_returns {call : Call ε σ α} {next : α → Call ε σ β}
    {state after : σ} {value : β}
    (returned : (call >>= next) state = (.ok value, after)) :
    ∃ first between, call state = (.ok first, between) ∧
      next first between = (.ok value, after) := by
  rw [bind_apply] at returned
  cases run : call state with
  | mk result between =>
      rw [run] at returned
      cases result with
      | error exception => cases returned
      | ok first => exact ⟨first, between, rfl, returned⟩

theorem bind_pure_ne (call : Call ε σ β) (value : α) (state : σ) {other : α}
    (differs : value ≠ other) :
    ((call >>= fun _ => pure value) state).1 ≠ .ok other := by
  rw [bind_apply]
  rcases call state with ⟨exception | _, after⟩
  · intro impossible
    cases impossible
  · intro same
    injection same with equal
    exact differs equal

theorem bind_if_ne {check : Call ε σ Bool} {state : σ}
    (fails : (check state).1 ≠ .ok true) (next : Call ε σ Bool) :
    ((do if ← check then next else pure false) state).1 ≠ .ok true := by
  rw [bind_apply]
  revert fails
  generalize check state = called
  intro fails
  rcases called with ⟨exception | passed, after⟩
  · intro impossible
    cases impossible
  · cases passed with
    | false =>
        intro impossible
        cases impossible
    | true => exact absurd rfl fails

theorem bind_if_snd_of_ne {check : Call ε σ Bool} {state : σ}
    (fails : (check state).1 ≠ .ok true) (next : Call ε σ β) (otherwise : β) :
    ((do if ← check then next else pure otherwise) state).2 = (check state).2 := by
  rw [bind_apply]
  revert fails
  generalize check state = called
  intro fails
  rcases called with ⟨exception | passed, after⟩
  · rfl
  · cases passed with
    | false => rfl
    | true => exact absurd rfl fails

/-! ### What a call returns -/

/-- The call returns the value, whatever the state. -/
def Yields (call : Call ε σ α) (value : α) : Prop :=
  ∀ state, (call state).1 = .ok value

theorem yields_pure (value : α) : Yields (pure value : Call ε σ α) value := by
  intro state
  rfl

theorem Yields.bind {call : Call ε σ α} {next : α → Call ε σ β} {value : α}
    {last : β} (first : Yields call value) (second : Yields (next value) last) :
    Yields (call >>= next) last := by
  intro state
  exact bind_fst (first state) second

theorem Yields.bind_pure {call : Call ε σ α} {value : α} (first : Yields call value)
    (last : β) : Yields (call >>= fun _ => pure last) last := by
  apply first.bind
  exact yields_pure last

theorem Yields.modify_bind {change : σ → σ} {next : Unit → Call ε σ β} {last : β}
    (second : Yields (next ()) last) : Yields (modify change >>= next) last := by
  intro state
  exact second (change state)

theorem Yields.of_start {next : σ → Call ε σ β} {last : β}
    (second : ∀ state, (next state state).1 = .ok last) :
    Yields (get >>= next) last := by
  intro state
  exact second state

theorem Yields.onlyIf {condition : Prop} [Decidable condition]
    {call : Call ε σ Unit} (yields : Yields call ()) :
    Yields (Call.onlyIf condition call) () := by
  unfold Call.onlyIf
  split
  · exact yields
  · exact yields_pure ()

/-! ### Calls that return -/

/-- From the state, the call returns some value. -/
def Returns (call : Call ε σ α) (state : σ) : Prop :=
  ∃ value, (call state).1 = .ok value

/-- The call returns from every state. -/
def Total (call : Call ε σ α) : Prop := ∀ state, Returns call state

theorem total_pure (value : α) : Total (pure value : Call ε σ α) := by
  intro state
  exact ⟨value, rfl⟩

theorem total_modify (change : σ → σ) : Total (modify change : Call ε σ Unit) := by
  intro state
  exact ⟨(), rfl⟩

theorem Yields.total {call : Call ε σ α} {value : α} (yields : Yields call value) :
    Total call := by
  intro state
  exact ⟨value, yields state⟩

theorem Total.yields {call : Call ε σ Unit} (total : Total call) :
    Yields call () := by
  intro state
  obtain ⟨_, returned⟩ := total state
  exact returned

theorem Total.bind {call : Call ε σ α} {next : α → Call ε σ β}
    (first : Total call) (second : ∀ value, Total (next value)) :
    Total (call >>= next) := by
  intro state
  obtain ⟨value, returned⟩ := first state
  unfold Returns
  rw [bind_apply]
  revert returned
  generalize call state = called
  intro returned
  rcases called with ⟨result, after⟩
  cases returned
  exact second value after

theorem Total.of_start {next : σ → Call ε σ β} (second : ∀ state, Total (next state)) :
    Total (get >>= next) := by
  intro state
  exact second state state

theorem Total.ite {condition : Prop} [Decidable condition]
    {positive negative : Call ε σ α} (first : condition → Total positive)
    (second : ¬ condition → Total negative) :
    Total (if condition then positive else negative) := by
  split
  · next holds => exact first holds
  · next fails => exact second fails

theorem Total.onlyIf {condition : Prop} [Decidable condition]
    {call : Call ε σ Unit} (total : Total call) :
    Total (Call.onlyIf condition call) := by
  apply Total.ite
  · intro _
    exact total
  · intro _
    exact total_pure ()

/-- Of two calls, the second of which always returns, only the first counts. -/
theorem returns_bind_iff {call : Call ε σ α} {next : α → Call ε σ β}
    (second : ∀ value, Total (next value)) (state : σ) :
    Returns (call >>= next) state ↔ Returns call state := by
  unfold Returns
  rw [bind_apply]
  generalize call state = called
  rcases called with ⟨exception | value, after⟩
  · constructor
    · rintro ⟨_, impossible⟩
      cases impossible
    · rintro ⟨_, impossible⟩
      cases impossible
  · exact iff_of_true (second value after) ⟨value, rfl⟩

theorem Total.bind_pure {call : Call ε σ α} (total : Total call) (value : β) :
    Yields (call >>= fun _ => pure value) value := by
  intro state
  obtain ⟨first, returned⟩ := total state
  apply bind_fst returned
  intro after
  rfl

theorem returns_bind_of_fst {call : Call ε σ α} {next : α → Call ε σ β}
    {state : σ} {value : α} {condition : Prop}
    (returned : (call state).1 = .ok value)
    (rest : ∀ after, Returns (next value) after ↔ condition) :
    Returns (call >>= next) state ↔ condition := by
  unfold Returns
  rw [bind_apply]
  revert returned
  generalize call state = called
  intro returned
  rcases called with ⟨_, after⟩
  cases returned
  exact rest after

/-- What follows a call that always returns decides, if the state that it is
left in does not. -/
theorem Total.returns_bind_iff {call : Call ε σ α} {next : α → Call ε σ β}
    {condition : Prop} (total : Total call)
    (rest : ∀ value state, Returns (next value) state ↔ condition) (state : σ) :
    Returns (call >>= next) state ↔ condition := by
  obtain ⟨value, returned⟩ := total state
  exact returns_bind_of_fst returned (rest value)

theorem returns_if_of_ne {check : Call ε σ Bool} {state : σ}
    (fails : (check state).1 ≠ .ok true) (next : Call ε σ β) (otherwise : β) :
    Returns (do if ← check then next else pure otherwise) state ↔
      Returns check state := by
  unfold Returns
  rw [bind_apply]
  revert fails
  generalize check state = called
  intro fails
  rcases called with ⟨exception | passed, after⟩
  · constructor
    · rintro ⟨_, impossible⟩
      cases impossible
    · rintro ⟨_, impossible⟩
      cases impossible
  · cases passed with
    | false => exact iff_of_true ⟨otherwise, rfl⟩ ⟨false, rfl⟩
    | true => exact absurd rfl fails

theorem returns_ofExcept_bind (result : Except ε α) (next : α → Call ε σ β)
    (state : σ) :
    Returns (ofExcept result >>= next) state ↔
      ∃ value, result = .ok value ∧ Returns (next value) state := by
  cases result with
  | error exception =>
      constructor
      · rintro ⟨_, impossible⟩
        cases impossible
      · rintro ⟨_, impossible, -⟩
        cases impossible
  | ok value =>
      constructor
      · intro returns
        exact ⟨value, rfl, returns⟩
      · rintro ⟨_, ⟨⟩, returns⟩
        exact returns

theorem returns_bind_of_ok {call : Call ε σ α} {state after : σ} {value : α}
    (returned : call state = (.ok value, after)) (next : α → Call ε σ β) :
    Returns (call >>= next) state ↔ Returns (next value) after := by
  unfold Returns
  rw [bind_of_ok returned]

/-! ### What a call keeps -/

/-- Whether it returns or throws, the call relates its states. -/
def Keeps (relation : σ → σ → Prop) (call : Call ε σ α) : Prop :=
  ∀ state, relation state (call state).2

section Rules

variable {relation : σ → σ → Prop}

theorem Keeps.of_start {next : σ → Call ε σ β}
    (second : ∀ state, relation state (next state state).2) :
    Keeps relation (get >>= next) := by
  intro state
  exact second state

theorem Keeps.ite {condition : Prop} [Decidable condition]
    {positive negative : Call ε σ α} (first : condition → Keeps relation positive)
    (second : ¬ condition → Keeps relation negative) :
    Keeps relation (if condition then positive else negative) := by
  split
  · next holds => exact first holds
  · next fails => exact second fails

theorem Keeps.onlyIf [Std.Refl relation] {condition : Prop}
    [Decidable condition] {call : Call ε σ Unit}
    (kept : condition → Keeps relation call) :
    Keeps relation (Call.onlyIf condition call) := by
  apply Keeps.ite kept
  intro _ state
  exact Std.Refl.refl state

theorem related_bind [IsTrans σ relation] {call : Call ε σ α}
    {next : α → Call ε σ β} {state : σ} (first : relation state (call state).2)
    (second : ∀ value after, call state = (.ok value, after) →
      relation after (next value after).2) :
    relation state ((call >>= next) state).2 := by
  rw [bind_apply]
  cases run : call state with
  | mk result between =>
      rw [run] at first
      cases result with
      | error exception => exact first
      | ok value => exact IsTrans.trans state between _ first (second value between run)

theorem Keeps.bind [IsTrans σ relation] {call : Call ε σ α}
    {next : α → Call ε σ β} (first : Keeps relation call)
    (second : ∀ value, Keeps relation (next value)) :
    Keeps relation (call >>= next) := by
  intro state
  apply related_bind (first state)
  intro value between _
  exact second value between

variable [Std.Refl relation]

theorem keeps_pure (value : α) :
    Keeps relation (pure value : Call ε σ α) := by
  intro state
  exact Std.Refl.refl state

theorem keeps_raise (exception : ε) :
    Keeps relation (raise exception : Call ε σ α) := by
  intro state
  exact Std.Refl.refl state

theorem keeps_ofExcept (result : Except ε α) :
    Keeps relation (ofExcept result : Call ε σ α) := by
  cases result with
  | ok value => exact keeps_pure value
  | error exception => exact keeps_raise exception

end Rules

/-! ### Invariants -/

/-- The relation that a call keeps when it preserves a property. -/
def Preserves (property : σ → Prop) (before after : σ) : Prop :=
  property before → property after

instance (property : σ → Prop) : Std.Refl (Preserves property) where
  refl _ := id

instance (property : σ → Prop) : IsTrans σ (Preserves property) where
  trans _ _ _ first second := second ∘ first

/-! ### What a call ends in -/

/-- Wherever it starts, and whether it returns or throws, the call leaves the
property. -/
structure Ends (property : σ → Prop) (call : Call ε σ α) : Prop where
  left : ∀ state, property (call state).2

theorem Ends.bind {property : σ → Prop} {call : Call ε σ α}
    {next : α → Call ε σ β} (first : Ends property call)
    (kept : ∀ value, Keeps (Preserves property) (next value)) :
    Ends property (call >>= next) where
  left := by
    intro state
    have ends := first.left state
    rw [bind_apply]
    revert ends
    generalize call state = called
    intro ends
    rcases called with ⟨exception | value, after⟩
    · exact ends
    · exact kept value after ends

theorem Total.ends {property : σ → Prop} {call : Call ε σ α}
    {next : α → Call ε σ β} (total : Total call)
    (rest : ∀ value, Ends property (next value)) :
    Ends property (call >>= next) where
  left := by
    intro state
    obtain ⟨value, returned⟩ := total state
    rw [bind_apply]
    revert returned
    generalize call state = called
    intro returned
    rcases called with ⟨_, after⟩
    cases returned
    exact (rest value).left after

theorem Ends.of_start {property : σ → Prop} {next : σ → Call ε σ β}
    (rest : ∀ state, Ends property (next state)) : Ends property (get >>= next) where
  left state := (rest state).left state

end Call

end Crocofix
