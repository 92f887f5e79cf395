/-
Runs of a step relation.

What every step preserves holds at the end of a run.  Work that every step
decreases bounds the number of steps, so that a run can be continued until no
step is possible any more.
-/

namespace Crocofix

inductive Run {σ : Type} (step : σ → σ → Prop) : Nat → σ → σ → Prop
  | rest (state : σ) : Run step 0 state state
  | next {count : Nat} {state after last : σ} (first : step state after)
      (more : Run step count after last) : Run step (count + 1) state last

namespace Run

variable {σ : Type} {step : σ → σ → Prop} {holds : σ → Prop} {work : σ → Nat}

def Stuck (step : σ → σ → Prop) (state : σ) : Prop := ∀ after, ¬ step state after

theorem single {state after : σ} (first : step state after) : Run step 1 state after :=
  .next first (.rest after)

theorem append {count more : Nat} {state middle last : σ}
    (front : Run step count state middle) (back : Run step more middle last) :
    Run step (more + count) state last := by
  induction front with
  | rest state => exact back
  | next first rest ih => exact .next first (ih back)

theorem mono {other : σ → σ → Prop} (wider : ∀ state after, step state after → other state after)
    {count : Nat} {state last : σ} (run : Run step count state last) :
    Run other count state last := by
  induction run with
  | rest state => exact .rest state
  | next first rest ih => exact .next (wider _ _ first) ih

theorem keeps (kept : ∀ state after, holds state → step state after → holds after)
    {count : Nat} {state last : σ} (run : Run step count state last)
    (start : holds state) : holds last := by
  induction run with
  | rest state => exact start
  | next first rest ih => exact ih (kept _ _ start first)

/-- A run has at most as many steps as it gets work done. -/
theorem add_work_le (kept : ∀ state after, holds state → step state after → holds after)
    (decreases : ∀ state after, holds state → step state after → work after < work state)
    {count : Nat} {state last : σ} (run : Run step count state last)
    (start : holds state) : count + work last ≤ work state := by
  induction run with
  | rest state => exact Nat.le_of_eq (Nat.zero_add _)
  | next first rest ih =>
      have later := ih (kept _ _ start first)
      have less := decreases _ _ start first
      omega

/-- Work that every step decreases comes to an end. -/
theorem exists_stuck (kept : ∀ state after, holds state → step state after → holds after)
    (decreases : ∀ state after, holds state → step state after → work after < work state)
    {state : σ} (start : holds state) :
    ∃ count last, Run step count state last ∧ Stuck step last := by
  induction size : work state using Nat.strongRecOn generalizing state with
  | _ bound ih =>
      by_cases ended : Stuck step state
      · exact ⟨0, state, .rest state, ended⟩
      · obtain ⟨after, first⟩ := Classical.not_forall_not.mp ended
        have less := decreases _ _ start first
        obtain ⟨count, last, more, stuck⟩ :=
          ih _ (size ▸ less) (kept _ _ start first) rfl
        exact ⟨count + 1, last, .next first more, stuck⟩

end Run

end Crocofix
