/-
Attempts that may fail, one after another.

A list of attempts succeeds if every one of them does, and the results are in the
order of the attempts.  In a loop every attempt starts from what the ones before it
have left.
-/

import Mathlib.Data.List.Basic

namespace Crocofix.Attempt

variable {ε α β : Type}

theorem bind_ok_iff {run : Except ε α} {next : α → Except ε β} {result : β} :
    run >>= next = .ok result ↔ ∃ value, run = .ok value ∧ next value = .ok result := by
  constructor
  · intro ok
    cases run with
    | error failure => cases ok
    | ok value => exact ⟨value, rfl, ok⟩
  · rintro ⟨value, rfl, ok⟩
    exact ok

theorem mapM_cons_ok_iff {attempt : α → Except ε β} {item : α} {items : List α}
    {results : List β} :
    (item :: items).mapM attempt = .ok results ↔
      ∃ first, attempt item = .ok first ∧
        ∃ rest, items.mapM attempt = .ok rest ∧ first :: rest = results := by
  rw [List.mapM_cons, bind_ok_iff]
  apply exists_congr
  intro first
  rw [bind_ok_iff]
  apply and_congr_right
  intro _
  apply exists_congr
  intro rest
  exact and_congr_right fun _ => ⟨Except.ok.inj, congrArg Except.ok⟩

theorem exists_mapM_ok_iff {attempt : α → Except ε β} {items : List α} :
    (∃ results, items.mapM attempt = .ok results) ↔
      ∀ item ∈ items, ∃ result, attempt item = .ok result := by
  induction items with
  | nil => exact ⟨fun _ => nofun, fun _ => ⟨[], rfl⟩⟩
  | cons item items ih =>
      rw [List.forall_mem_cons, ← ih]
      constructor
      · rintro ⟨results, ok⟩
        obtain ⟨first, one, rest, others, -⟩ := mapM_cons_ok_iff.mp ok
        exact ⟨⟨first, one⟩, rest, others⟩
      · rintro ⟨⟨first, one⟩, rest, others⟩
        exact ⟨first :: rest, mapM_cons_ok_iff.mpr ⟨first, one, rest, others, rfl⟩⟩

theorem mem_of_mapM_ok {attempt : α → Except ε β} {items : List α} {results : List β}
    (ok : items.mapM attempt = .ok results) {result : β} (member : result ∈ results) :
    ∃ item ∈ items, attempt item = .ok result := by
  induction items generalizing results with
  | nil =>
      cases ok
      cases member
  | cons item items ih =>
      obtain ⟨first, one, rest, others, rfl⟩ := mapM_cons_ok_iff.mp ok
      rcases List.mem_cons.mp member with rfl | later
      · exact ⟨item, List.mem_cons_self, one⟩
      · obtain ⟨other, inside, found⟩ := ih others later
        exact ⟨other, List.mem_cons_of_mem _ inside, found⟩

theorem flatten_mapM_eq_nil_iff {attempt : α → Except ε (List β)} {items : List α} :
    (∃ results, items.mapM attempt = .ok results ∧ results.flatten = []) ↔
      ∀ item ∈ items, attempt item = .ok [] := by
  induction items with
  | nil => exact ⟨fun _ => nofun, fun _ => ⟨[], rfl, rfl⟩⟩
  | cons item items ih =>
      rw [List.forall_mem_cons, ← ih]
      constructor
      · rintro ⟨results, ok, none⟩
        obtain ⟨first, one, rest, others, rfl⟩ := mapM_cons_ok_iff.mp ok
        obtain ⟨rfl, nothing⟩ := List.append_eq_nil_iff.mp none
        exact ⟨one, rest, others, nothing⟩
      · rintro ⟨one, rest, others, nothing⟩
        exact ⟨[] :: rest, mapM_cons_ok_iff.mpr ⟨[], one, rest, others, rfl⟩, nothing⟩

/-! ### Loops -/

section loop

variable {step : β → α → Except ε β} (holds : List α → β → Prop) {all : List α}

/-- What every step keeps, told by the items that are done, holds at the end. -/
theorem foldlM_keeps
    (keeps : ∀ done state item next, item ∈ all → holds done state →
      step state item = .ok next → holds (done ++ [item]) next) :
    ∀ {rest done : List α} {state final : β}, rest ⊆ all → holds done state →
      rest.foldlM step state = .ok final → holds (done ++ rest) final := by
  intro rest
  induction rest with
  | nil =>
      intro done state final _ held ok
      cases ok
      rwa [List.append_nil]
  | cons item rest ih =>
      intro done state final inside held ok
      rw [List.foldlM_cons, bind_ok_iff] at ok
      obtain ⟨next, one, others⟩ := ok
      obtain ⟨listed, later⟩ := List.cons_subset.mp inside
      have kept := ih later (keeps done state item next listed held one) others
      rwa [List.append_assoc] at kept

/-- Where the items alone decide which steps fail, they decide whether the loop does. -/
theorem exists_foldlM_ok_iff {can : α → Prop}
    (keeps : ∀ done state item next, item ∈ all → holds done state →
      step state item = .ok next → holds (done ++ [item]) next)
    (decides : ∀ done state item, holds done state →
      ((∃ next, step state item = .ok next) ↔ can item)) :
    ∀ {rest done : List α} {state : β}, rest ⊆ all → holds done state →
      ((∃ final, rest.foldlM step state = .ok final) ↔ ∀ item ∈ rest, can item) := by
  intro rest
  induction rest with
  | nil =>
      intro done state _ _
      exact ⟨fun _ => nofun, fun _ => ⟨state, rfl⟩⟩
  | cons item rest ih =>
      intro done state inside held
      obtain ⟨listed, later⟩ := List.cons_subset.mp inside
      rw [List.forall_mem_cons, ← decides done state item held]
      constructor
      · rintro ⟨final, ok⟩
        rw [List.foldlM_cons, bind_ok_iff] at ok
        obtain ⟨next, one, others⟩ := ok
        exact ⟨⟨next, one⟩,
          (ih later (keeps done state item next listed held one)).mp ⟨final, others⟩⟩
      · rintro ⟨⟨next, one⟩, each⟩
        obtain ⟨final, others⟩ :=
          (ih later (keeps done state item next listed held one)).mpr each
        refine ⟨final, ?_⟩
        rw [List.foldlM_cons, bind_ok_iff]
        exact ⟨next, one, others⟩

end loop

end Crocofix.Attempt
