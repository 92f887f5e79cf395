/-
Dictionaries that keep the order in which their keys were first set.

Setting a key that is there replaces its value in place, and two dictionaries
are equal as mappings when every key has the same value in both.
-/

import Mathlib.Data.List.Basic
import Mathlib.Data.List.Nodup

namespace Crocofix

namespace Dict

variable {κ α : Type} [DecidableEq κ]

def lookup (key : κ) : List (κ × α) → Option α
  | [] => none
  | (other, value) :: rest => if other = key then some value else lookup key rest

def assign (key : κ) (value : α) : List (κ × α) → List (κ × α)
  | [] => [(key, value)]
  | (other, old) :: rest =>
      if other = key then (key, value) :: rest
      else (other, old) :: assign key value rest

theorem map_fst_assign_of_mem {key : κ} (value : α) {entries : List (κ × α)}
    (member : key ∈ entries.map Prod.fst) :
    (assign key value entries).map Prod.fst = entries.map Prod.fst := by
  induction entries with
  | nil => cases member
  | cons entry rest ih =>
      rcases entry with ⟨other, old⟩
      by_cases here : other = key
      · simp [assign, here]
      · have later : key ∈ rest.map Prod.fst :=
          (List.mem_cons.mp member).resolve_left (Ne.symm here)
        simp [assign, here, ih later]

theorem map_fst_assign_of_not_mem {key : κ} (value : α) {entries : List (κ × α)}
    (absent : key ∉ entries.map Prod.fst) :
    (assign key value entries).map Prod.fst = entries.map Prod.fst ++ [key] := by
  induction entries with
  | nil => rfl
  | cons entry rest ih =>
      rcases entry with ⟨other, old⟩
      rw [List.map_cons, List.mem_cons, not_or] at absent
      have here : ¬ other = key := Ne.symm absent.1
      simp [assign, here, ih absent.2]

theorem nodup_assign (key : κ) (value : α) {entries : List (κ × α)}
    (nodup : (entries.map Prod.fst).Nodup) :
    ((assign key value entries).map Prod.fst).Nodup := by
  by_cases member : key ∈ entries.map Prod.fst
  · rwa [map_fst_assign_of_mem value member]
  · rw [map_fst_assign_of_not_mem value member, List.nodup_append]
    refine ⟨nodup, List.nodup_singleton key, ?_⟩
    intro left inside right last
    rw [List.mem_singleton.mp last]
    rintro rfl
    exact member inside

theorem lookup_assign (key other : κ) (value : α) (entries : List (κ × α)) :
    lookup other (assign key value entries) =
      if key = other then some value else lookup other entries := by
  induction entries with
  | nil => rfl
  | cons entry rest ih =>
      rcases entry with ⟨first, old⟩
      by_cases here : first = key
      · by_cases same : key = other
        · simp [assign, lookup, here, same]
        · simp [assign, lookup, here, same]
      · by_cases same : first = other
        · have differs : ¬ key = other := fun equal => here (same.trans equal.symm)
          rw [assign, if_neg here]
          simp [lookup, same, differs]
        · simp [assign, lookup, here, same, ih]

theorem mem_of_lookup {key : κ} {value : α} {entries : List (κ × α)}
    (found : lookup key entries = some value) : (key, value) ∈ entries := by
  induction entries with
  | nil => cases found
  | cons entry rest ih =>
      rcases entry with ⟨other, old⟩
      unfold lookup at found
      split at found
      · next here =>
          injection found with same
          rw [here, same]
          exact List.mem_cons_self
      · exact List.mem_cons_of_mem _ (ih found)

theorem lookup_of_mem {key : κ} {value : α} {entries : List (κ × α)}
    (nodup : (entries.map Prod.fst).Nodup) (member : (key, value) ∈ entries) :
    lookup key entries = some value := by
  induction entries with
  | nil => cases member
  | cons entry rest ih =>
      rw [List.map_cons, List.nodup_cons] at nodup
      unfold lookup
      rcases List.mem_cons.mp member with here | later
      · rw [← here]
        exact if_pos rfl
      · have differs : ¬ entry.1 = key := by
          intro same
          exact nodup.1 (same ▸ List.mem_map_of_mem later)
        rw [if_neg differs]
        exact ih nodup.2 later

end Dict

structure Dict (κ α : Type) where
  entries : List (κ × α)
  nodup : (entries.map Prod.fst).Nodup

namespace Dict

variable {κ α : Type}

def empty : Dict κ α := ⟨[], List.nodup_nil⟩

def values (dict : Dict κ α) : List α := dict.entries.map Prod.snd

variable [DecidableEq κ]

def get? (dict : Dict κ α) (key : κ) : Option α := lookup key dict.entries

def set (dict : Dict κ α) (key : κ) (value : α) : Dict κ α :=
  ⟨assign key value dict.entries, nodup_assign key value dict.nodup⟩

def setIf (dict : Dict κ α) (key : κ) (value : Option α) : Dict κ α :=
  match value with
  | none => dict
  | some value => dict.set key value

def ofValues (key : α → κ) (values : List α) : Dict κ α :=
  values.foldl (fun dict value => dict.set (key value) value) empty

def Same (left right : Dict κ α) : Prop := ∀ key, left.get? key = right.get? key

@[simp] theorem get?_empty (key : κ) : (empty : Dict κ α).get? key = none := rfl

@[simp] theorem get?_set (dict : Dict κ α) (key other : κ) (value : α) :
    (dict.set key value).get? other =
      if key = other then some value else dict.get? other :=
  lookup_assign key other value dict.entries

@[simp] theorem get?_setIf (dict : Dict κ α) (key other : κ) (value : Option α) :
    (dict.setIf key value).get? other =
      if key = other then value.or (dict.get? other) else dict.get? other := by
  cases value with
  | none => simp [setIf]
  | some value => simp [setIf]

theorem mem_entries_iff (dict : Dict κ α) (key : κ) (value : α) :
    (key, value) ∈ dict.entries ↔ dict.get? key = some value :=
  ⟨lookup_of_mem dict.nodup, mem_of_lookup⟩

theorem mem_values_iff (dict : Dict κ α) (value : α) :
    value ∈ dict.values ↔ ∃ key, dict.get? key = some value := by
  constructor
  · intro member
    obtain ⟨⟨key, other⟩, inside, rfl⟩ := List.mem_map.mp member
    exact ⟨key, lookup_of_mem dict.nodup inside⟩
  · rintro ⟨key, found⟩
    exact List.mem_map.mpr ⟨_, mem_of_lookup found, rfl⟩

theorem get?_foldl_set (key : α → κ) (values : List α) (dict : Dict κ α) (wanted : κ) :
    (values.foldl (fun dict value => dict.set (key value) value) dict).get? wanted =
      (values.reverse.find? fun value => key value = wanted).or
        (dict.get? wanted) := by
  induction values generalizing dict with
  | nil => simp
  | cons value values ih =>
      rw [List.foldl_cons, ih, get?_set, List.reverse_cons, List.find?_append,
        Option.or_assoc]
      congr 1
      by_cases here : key value = wanted
      · simp [here]
      · simp [here]

/-- Of several values with one key the last one stays. -/
theorem get?_ofValues (key : α → κ) (values : List α) (wanted : κ) :
    (ofValues key values).get? wanted =
      values.reverse.find? fun value => key value = wanted := by
  unfold ofValues
  rw [get?_foldl_set, get?_empty, Option.or_none]

theorem key_of_get?_ofValues {key : α → κ} {values : List α} {wanted : κ} {value : α}
    (found : (ofValues key values).get? wanted = some value) :
    key value = wanted ∧ value ∈ values := by
  rw [get?_ofValues] at found
  exact ⟨by simpa using List.find?_some found,
    List.mem_reverse.mp (List.mem_of_find?_eq_some found)⟩

theorem get?_ofValues_of_mem {key : α → κ} {values : List α}
    (distinct : ∀ left ∈ values, ∀ right ∈ values, key left = key right → left = right)
    {value : α} (member : value ∈ values) :
    (ofValues key values).get? (key value) = some value := by
  rw [get?_ofValues]
  cases found : values.reverse.find? fun other => key other = key value with
  | none =>
      have absent := List.find?_eq_none.mp found value (List.mem_reverse.mpr member)
      exact absurd (decide_eq_true rfl) absent
  | some other =>
      have same : key other = key value := by simpa using List.find?_some found
      have inside := List.mem_reverse.mp (List.mem_of_find?_eq_some found)
      rw [distinct other inside value member same]

theorem mem_values_ofValues {key : α → κ} {values : List α} {value : α}
    (member : value ∈ (ofValues key values).values) : value ∈ values := by
  obtain ⟨wanted, found⟩ := (mem_values_iff _ value).mp member
  exact (key_of_get?_ofValues found).2

theorem mem_values_ofValues_of_mem {key : α → κ} {values : List α}
    (distinct : ∀ left ∈ values, ∀ right ∈ values, key left = key right → left = right)
    {value : α} (member : value ∈ values) : value ∈ (ofValues key values).values :=
  (mem_values_iff _ value).mpr ⟨key value, get?_ofValues_of_mem distinct member⟩

/-- Every value is found under its own key. -/
def Indexes (dict : Dict κ α) (key : α → κ) : Prop :=
  ∀ wanted value, dict.get? wanted = some value → key value = wanted

theorem indexes_ofValues (key : α → κ) (values : List α) :
    (ofValues key values).Indexes key :=
  fun _ _ found => (key_of_get?_ofValues found).1

theorem Indexes.get?_of_mem {dict : Dict κ α} {key : α → κ}
    (indexes : dict.Indexes key) {value : α} (member : value ∈ dict.values) :
    dict.get? (key value) = some value := by
  obtain ⟨wanted, found⟩ := (mem_values_iff dict value).mp member
  rwa [indexes wanted value found]

theorem Indexes.eq_of_key {dict : Dict κ α} {key : α → κ}
    (indexes : dict.Indexes key) {left right : α} (first : left ∈ dict.values)
    (second : right ∈ dict.values) (same : key left = key right) : left = right := by
  have found := indexes.get?_of_mem first
  rw [same, indexes.get?_of_mem second] at found
  exact (Option.some.inj found).symm

theorem Indexes.map_values {dict : Dict κ α} {key : α → κ} (indexes : dict.Indexes key) :
    dict.values.map key = dict.entries.map Prod.fst := by
  unfold values
  rw [List.map_map]
  apply List.map_congr_left
  rintro ⟨wanted, value⟩ member
  exact indexes wanted value ((mem_entries_iff dict wanted value).mp member)

theorem Indexes.set {dict : Dict κ α} {key : α → κ} (indexes : dict.Indexes key)
    (value : α) : (dict.set (key value) value).Indexes key := by
  intro wanted other found
  rw [get?_set] at found
  split at found
  · next same =>
      cases found
      exact same
  · exact indexes wanted other found

/-- Two dictionaries with the same key function are the same mapping if they have
the same values. -/
theorem same_of_mem_iff {left right : Dict κ α} {key : α → κ}
    (first : left.Indexes key) (second : right.Indexes key)
    (members : ∀ value, value ∈ left.values ↔ value ∈ right.values) :
    left.Same right := by
  intro wanted
  apply Option.ext
  intro value
  constructor
  · intro found
    have member := (members value).mp ((mem_values_iff left value).mpr ⟨wanted, found⟩)
    rw [← first wanted value found]
    exact second.get?_of_mem member
  · intro found
    have member := (members value).mpr
      ((mem_values_iff right value).mpr ⟨wanted, found⟩)
    rw [← second wanted value found]
    exact first.get?_of_mem member

/-- Values that are changed and set again give the same mapping only if none of
them has changed, where changing one twice puts it under the same key. -/
theorem same_ofValues_map_iff {dict : Dict κ α} {key : α → κ}
    (indexes : dict.Indexes key) {values : List α}
    (members : ∀ value, value ∈ values ↔ value ∈ dict.values) (change : α → α)
    (normal : κ → κ) (keys : ∀ value, key (change value) = normal (key value))
    (again : ∀ one, normal (normal one) = normal one) :
    (ofValues key (values.map change)).Same dict ↔
      ∀ value ∈ values, change value = value := by
  constructor
  · intro same
    have source {value : α} (member : value ∈ values) :
        ∃ old ∈ values, change old = value := by
      obtain ⟨wanted, found⟩ :=
        (Dict.mem_values_iff dict value).mp ((members value).mp member)
      rw [← same wanted] at found
      exact List.mem_map.mp (key_of_get?_ofValues found).2
    have normalKey {value : α} (member : value ∈ values) :
        normal (key value) = key value := by
      obtain ⟨old, -, rfl⟩ := source member
      rw [keys, again]
    intro value member
    obtain ⟨old, inside, changed⟩ := source member
    have sameKey : key old = key value := by
      rw [← changed, keys, normalKey inside]
    have equal := indexes.eq_of_key ((members old).mp inside) ((members value).mp member)
      sameKey
    rw [equal] at changed
    exact changed
  · intro unchanged
    have mapped : values.map change = values := by
      rw [List.map_congr_left unchanged]
      exact List.map_id _
    rw [mapped]
    apply same_of_mem_iff (indexes_ofValues key values) indexes
    intro value
    rw [← members value]
    constructor
    · exact mem_values_ofValues
    · apply mem_values_ofValues_of_mem
      intro left first right second equal
      exact indexes.eq_of_key ((members left).mp first) ((members right).mp second) equal

theorem same_empty_iff {dict : Dict κ α} : empty.Same dict ↔ dict.values = [] := by
  constructor
  · intro same
    apply List.eq_nil_iff_forall_not_mem.mpr
    intro value member
    obtain ⟨key, found⟩ := (Dict.mem_values_iff dict value).mp member
    rw [← same key] at found
    cases found
  · intro none key
    cases found : dict.get? key with
    | none => rfl
    | some value =>
        have member := (Dict.mem_values_iff dict value).mpr ⟨key, found⟩
        rw [none] at member
        cases member

section twice

variable {β γ ι : Type} [DecidableEq ι] {items : List α} (first : α → β) (key : β → κ)
  (second : β → γ) (index : γ → ι)

/-- Items that are set twice, under keys that stay different, are still found. -/
theorem get?_ofValues_twice
    (distinct : ∀ left ∈ items, ∀ right ∈ items,
      key (first left) = key (first right) → left = right)
    (different : ∀ left ∈ items, ∀ right ∈ items,
      index (second (first left)) = index (second (first right)) → left = right)
    {one : α} (member : one ∈ items) :
    (ofValues index ((ofValues key (items.map first)).values.map second)).get?
      (index (second (first one))) = some (second (first one)) := by
  have once : first one ∈ (ofValues key (items.map first)).values := by
    apply mem_values_ofValues_of_mem _ (List.mem_map_of_mem member)
    simp only [List.forall_mem_map]
    intro left inside right other same
    rw [distinct left inside right other same]
  apply get?_ofValues_of_mem _ (List.mem_map_of_mem once)
  simp only [List.forall_mem_map]
  intro left inside right other same
  obtain ⟨source, known, rfl⟩ := List.mem_map.mp (mem_values_ofValues inside)
  obtain ⟨target, listed, rfl⟩ := List.mem_map.mp (mem_values_ofValues other)
  rw [different source known target listed same]

variable {first key second index}

theorem mem_of_get?_ofValues_twice {wanted : ι} {value : γ}
    (found : (ofValues index ((ofValues key (items.map first)).values.map second)).get?
      wanted = some value) :
    ∃ one ∈ items, second (first one) = value ∧ index value = wanted := by
  obtain ⟨same, listed⟩ := key_of_get?_ofValues found
  obtain ⟨middle, inside, rfl⟩ := List.mem_map.mp listed
  obtain ⟨one, member, rfl⟩ := List.mem_map.mp (mem_values_ofValues inside)
  exact ⟨one, member, rfl, same⟩

end twice

end Dict

end Crocofix
