/-
Sets of things that are compared by a key.

Of several things with one key a set holds the one that came first.  Sets of things
of different kinds are compared by the keys that are in them.
-/

import Mathlib.Data.Finset.Card

namespace Crocofix.Keyed

variable {α β κ : Type} [DecidableEq κ]

def frozenset (key : α → κ) : List α → List α
  | [] => []
  | item :: items =>
      item :: (frozenset key items).filter fun other => key other ≠ key item

def difference (key : α → κ) (other : β → κ) (left : List α) (right : List β) : List α :=
  left.filter fun item => key item ∉ right.map other

def keys (key : α → κ) (items : List α) : Finset κ := (items.map key).toFinset

variable {key : α → κ} {other : β → κ}

theorem mem_keys {items : List α} {one : κ} :
    one ∈ keys key items ↔ ∃ item ∈ items, key item = one := by
  unfold keys
  rw [List.mem_toFinset, List.mem_map]

theorem keys_cons (item : α) (items : List α) :
    keys key (item :: items) = insert (key item) (keys key items) := by
  unfold keys
  rw [List.map_cons, List.toFinset_cons]

theorem keys_map {γ : Type} (change : γ → α) (items : List γ) :
    keys key (items.map change) = keys (fun item => key (change item)) items := by
  unfold keys
  rw [List.map_map]
  rfl

theorem keys_filter_ne (one : κ) (items : List α) :
    keys key (items.filter fun item => key item ≠ one) = (keys key items).erase one := by
  ext wanted
  rw [Finset.mem_erase, mem_keys, mem_keys]
  constructor
  · rintro ⟨item, member, rfl⟩
    obtain ⟨listed, differs⟩ := List.mem_filter.mp member
    exact ⟨of_decide_eq_true differs, item, listed, rfl⟩
  · rintro ⟨differs, item, listed, rfl⟩
    exact ⟨item, List.mem_filter.mpr ⟨listed, decide_eq_true differs⟩, rfl⟩

theorem keys_frozenset (items : List α) : keys key (frozenset key items) = keys key items := by
  induction items with
  | nil => rfl
  | cons item items ih =>
      unfold frozenset
      rw [keys_cons, keys_filter_ne, ih, keys_cons, ← Finset.erase_insert_eq_erase,
        Finset.insert_erase (Finset.mem_insert_self _ _)]

theorem nodup_frozenset (items : List α) : ((frozenset key items).map key).Nodup := by
  induction items with
  | nil => exact List.nodup_nil
  | cons item items ih =>
      unfold frozenset
      rw [List.map_cons, List.nodup_cons]
      constructor
      · intro member
        obtain ⟨one, inside, same⟩ := List.mem_map.mp member
        exact of_decide_eq_true (List.mem_filter.mp inside).2 same
      · exact ih.sublist (List.filter_sublist.map key)

theorem length_frozenset (items : List α) :
    (frozenset key items).length = (keys key items).card := by
  rw [← keys_frozenset, keys, List.toFinset_card_of_nodup (nodup_frozenset items),
    List.length_map]

theorem difference_eq_nil_iff {left : List α} {right : List β} :
    difference key other left right = [] ↔ keys key left ⊆ keys other right := by
  unfold difference
  rw [List.filter_eq_nil_iff]
  constructor
  · intro none one member
    obtain ⟨item, listed, rfl⟩ := mem_keys.mp member
    have known := none item listed
    rw [decide_eq_true_eq, not_not] at known
    exact List.mem_toFinset.mpr known
  · intro subset item listed
    rw [decide_eq_true_eq, not_not]
    exact List.mem_toFinset.mp (subset (mem_keys.mpr ⟨item, listed, rfl⟩))

theorem differences_eq_nil_iff {left : List α} {right : List β} :
    (difference key other (frozenset key left) (frozenset other right) = [] ∧
      difference other key (frozenset other right) (frozenset key left) = []) ↔
      keys key left = keys other right := by
  rw [difference_eq_nil_iff, difference_eq_nil_iff, keys_frozenset, keys_frozenset]
  exact Finset.Subset.antisymm_iff.symm

end Crocofix.Keyed
