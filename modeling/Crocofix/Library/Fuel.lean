/-
Recursive computations that are given a number of nested calls as fuel.

A computation settles on a value if it gives this value with enough fuel and with
any more.  A recursion along a relation without cycles that leads to finitely many
places is well-founded, so that induction along it finds enough fuel.
-/

import Mathlib.Order.WellFoundedSet

namespace Crocofix

def Settles {ε α : Type} (run : Nat → Except ε α) (value : α) : Prop :=
  ∃ enough, ∀ fuel, enough ≤ fuel → run fuel = .ok value

variable {ε α β : Type}

theorem settles_ok (value : α) : Settles (fun _ => (.ok value : Except ε α)) value :=
  ⟨0, fun _ _ => rfl⟩

theorem Settles.bind {run : Nat → Except ε α} {next : Nat → α → Except ε β} {value : α}
    {result : β} (first : Settles run value)
    (second : Settles (fun fuel => next fuel value) result) :
    Settles (fun fuel => run fuel >>= next fuel) result := by
  obtain ⟨enough, runs⟩ := first
  obtain ⟨more, continues⟩ := second
  refine ⟨max enough more, ?_⟩
  intro fuel above
  change run fuel >>= next fuel = .ok result
  rw [runs fuel (le_trans (le_max_left enough more) above)]
  exact continues fuel (le_trans (le_max_right enough more) above)

theorem Settles.map {run : Nat → Except ε α} {value : α} (settles : Settles run value)
    (change : α → β) : Settles (fun fuel => (run fuel).map change) (change value) := by
  obtain ⟨enough, runs⟩ := settles
  refine ⟨enough, ?_⟩
  intro fuel above
  change (run fuel).map change = .ok (change value)
  rw [runs fuel above]
  rfl

theorem Settles.succ {run : Nat → Except ε α} {value : α}
    (settles : Settles (fun fuel => run (fuel + 1)) value) : Settles run value := by
  obtain ⟨enough, runs⟩ := settles
  refine ⟨enough + 1, ?_⟩
  intro fuel above
  cases fuel with
  | zero => exact absurd above (Nat.not_succ_le_zero enough)
  | succ fuel => exact runs fuel (Nat.le_of_succ_le_succ above)

theorem settles_mapM {run : Nat → α → Except ε β} {value : α → β} {items : List α}
    (each : ∀ item ∈ items, Settles (fun fuel => run fuel item) (value item)) :
    Settles (fun fuel => items.mapM (run fuel)) (items.map value) := by
  induction items with
  | nil => exact settles_ok []
  | cons item items ih =>
      have rest := ih fun other later => each other (List.mem_cons_of_mem _ later)
      simp only [List.mapM_cons]
      exact (each item List.mem_cons_self).bind (rest.bind (settles_ok _))

theorem Settles.both {left : Nat → Except ε α} {right : Nat → Except ε β} {value : α}
    {result : β} (first : Settles left value) (second : Settles right result) :
    ∃ fuel, left fuel = .ok value ∧ right fuel = .ok result := by
  obtain ⟨enough, runs⟩ := first
  obtain ⟨more, continues⟩ := second
  exact ⟨max enough more, runs _ (le_max_left enough more),
    continues _ (le_max_right enough more)⟩

theorem Settles.unique {run : Nat → Except ε α} {left right : α}
    (first : Settles run left) (second : Settles run right) : left = right := by
  obtain ⟨fuel, one, other⟩ := first.both second
  rw [one] at other
  exact Except.ok.inj other

/-- A relation without cycles that relates only finitely many things to others. -/
theorem wellFounded_of_acyclic {inner : α → α → Prop}
    (finite : {one | ∃ other, inner one other}.Finite)
    (acyclic : ∀ one, ¬ Relation.TransGen inner one one) : WellFounded inner := by
  have order : IsStrictOrder α (Relation.TransGen inner) :=
    { irrefl := acyclic
      trans := fun _ _ _ => Relation.TransGen.trans }
  have below (one : α) : {other | Relation.TransGen inner other one} ⊆
      {one | ∃ other, inner one other} := by
    intro other reaches
    obtain ⟨next, first, -⟩ := Relation.TransGen.head'_iff.mp reaches
    exact ⟨next, first⟩
  constructor
  intro one
  apply (Set.WellFoundedOn.acc_iff_wellFoundedOn.out 0 2).mpr
  have founded := (finite.subset (below one)).wellFoundedOn (r := Relation.TransGen inner)
  exact founded.mono (fun _ _ => Relation.TransGen.single) subset_rfl

end Crocofix
