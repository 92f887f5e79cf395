/-
Texts that are read line by line, and the search for a pattern in a line.

A pattern whose first symbol does not occur again in it cannot begin inside of an
occurrence of itself, so that the search finds what was written behind other text.
-/

import Mathlib.Data.List.Basic

namespace Crocofix.Line

variable {Symbol : Type} [DecidableEq Symbol]

/-! ### Lines -/

/-- The lines of a text.  What follows the last separator is a line too, unless it is
empty. -/
def lines (separator : Symbol) : List Symbol → List (List Symbol)
  | [] => []
  | symbol :: rest =>
      if symbol = separator then [] :: lines separator rest
      else
        match lines separator rest with
        | [] => [[symbol]]
        | line :: more => (symbol :: line) :: more

theorem lines_line {separator : Symbol} {line : List Symbol} (plain : separator ∉ line)
    (rest : List Symbol) :
    lines separator (line ++ separator :: rest) = line :: lines separator rest := by
  induction line with
  | nil => rw [List.nil_append, lines, if_pos rfl]
  | cons symbol line ih =>
      obtain ⟨differs, later⟩ := not_or.mp fun member => plain (List.mem_cons.mpr member)
      rw [List.cons_append, lines, if_neg (Ne.symm differs), ih later]

theorem separator_not_mem {separator : Symbol} (text : List Symbol) :
    ∀ line ∈ lines separator text, separator ∉ line := by
  induction text with
  | nil =>
      intro line member
      cases member
  | cons symbol rest ih =>
      unfold lines
      split
      · exact List.forall_mem_cons.mpr ⟨List.not_mem_nil, ih⟩
      · next differs =>
        split
        · rw [List.forall_mem_singleton, List.mem_singleton]
          exact Ne.symm differs
        · next line more found =>
          rw [found, List.forall_mem_cons] at ih
          refine List.forall_mem_cons.mpr ⟨?_, ih.2⟩
          rw [List.mem_cons, not_or]
          exact ⟨Ne.symm differs, ih.1⟩

theorem lines_written {separator : Symbol} {texts : List (List Symbol)}
    (plain : ∀ text ∈ texts, separator ∉ text) :
    lines separator (texts.flatMap fun text => text ++ [separator]) = texts := by
  induction texts with
  | nil => rfl
  | cons text texts ih =>
      obtain ⟨here, later⟩ := List.forall_mem_cons.mp plain
      rw [List.flatMap_cons, List.append_assoc, List.singleton_append, lines_line here,
        ih later]

/-! ### The search -/

/-- The text from the first occurrence of the pattern on. -/
def search (pattern : List Symbol) : List Symbol → Option (List Symbol)
  | [] => if pattern = [] then some [] else none
  | symbol :: rest =>
      if pattern <+: symbol :: rest then some (symbol :: rest) else search pattern rest

theorem suffix_of_search {pattern text found : List Symbol}
    (search : search pattern text = some found) : found <:+ text := by
  induction text with
  | nil =>
      unfold Line.search at search
      split at search
      · injection search with same
        exact same ▸ List.nil_suffix
      · cases search
  | cons symbol rest ih =>
      unfold Line.search at search
      split at search
      · injection search with same
        exact same ▸ List.suffix_refl _
      · exact (ih search).trans (List.suffix_cons symbol rest)

theorem search_none {pattern text : List Symbol} (absent : ¬ pattern <:+: text) :
    search pattern text = none := by
  induction text with
  | nil =>
      rw [List.infix_nil] at absent
      rw [search, if_neg absent]
  | cons symbol rest ih =>
      obtain ⟨notHere, notLater⟩ := not_or.mp fun either => absent (List.infix_cons_iff.mpr either)
      rw [search, if_neg notHere, ih notLater]

omit [DecidableEq Symbol] in
theorem infix_of_starts {first symbol : Symbol} {tail before rest : List Symbol}
    (unbordered : first ∉ tail)
    (starts : first :: tail <+: (symbol :: before) ++ (first :: tail ++ rest)) :
    first :: tail <+: symbol :: before := by
  rcases Nat.le_total (first :: tail).length (symbol :: before).length with short | long
  · exact List.prefix_of_prefix_length_le starts (List.prefix_append _ _) short
  · obtain ⟨gap, split⟩ :=
      List.prefix_of_prefix_length_le (List.prefix_append _ _) starts long
    cases gap with
    | nil =>
        rw [List.append_nil] at split
        exact ⟨[], by rw [List.append_nil, split]⟩
    | cons next gap =>
        -- The pattern goes on where it begins again.
        rw [← split, List.prefix_append_right_inj, split, List.cons_append,
          List.cons_prefix_cons] at starts
        injection split with same inside
        have member : next ∈ tail := by
          rw [← inside]
          exact List.mem_append_right _ List.mem_cons_self
        rw [starts.1] at member
        exact absurd member unbordered

theorem search_append {first : Symbol} {tail before : List Symbol}
    (unbordered : first ∉ tail) (absent : ¬ first :: tail <:+: before)
    (rest : List Symbol) :
    search (first :: tail) (before ++ (first :: tail ++ rest)) =
      some (first :: tail ++ rest) := by
  induction before with
  | nil =>
      rw [List.nil_append, List.cons_append, search, if_pos]
      rw [← List.cons_append]
      exact List.prefix_append _ _
  | cons symbol before ih =>
      obtain ⟨notHere, notLater⟩ :=
        not_or.mp fun either => absent (List.infix_cons_iff.mpr either)
      rw [List.cons_append, search, if_neg, ih notLater]
      intro starts
      exact notHere (infix_of_starts unbordered starts)

end Crocofix.Line
