/-
Text of Unicode characters, as the string and integer types of Python treat it.

A whole number is written in decimal digits and read back with blanks around it,
a sign, an underscore between two digits, and the decimal digits of any script.
-/

import Mathlib.Data.List.DropRight

namespace Crocofix

abbrev Text := List Char

namespace Text

/-- The characters for which `str.isspace` holds. -/
def isSpace (c : Char) : Bool :=
  c.toNat ∈ [9, 10, 11, 12, 13, 28, 29, 30, 31, 32, 133, 160, 5760, 8192, 8193, 8194,
    8195, 8196, 8197, 8198, 8199, 8200, 8201, 8202, 8232, 8233, 8239, 8287, 12288]

/-- The four separators that `str.isspace` has are no blanks of a number. -/
def isBlank (c : Char) : Bool :=
  isSpace c && !(28 ≤ c.toNat && c.toNat ≤ 31)

def trim (blank : Char → Bool) (text : Text) : Text :=
  (text.dropWhile blank).rdropWhile blank

def strip (text : Text) : Text := trim isSpace text

/-- The zero of every script that has decimal digits; its digits from one to nine
follow it. -/
def zeros : List Nat :=
  [48, 1632, 1776, 1984, 2406, 2534, 2662, 2790, 2918, 3046, 3174, 3302, 3430, 3558,
    3664, 3792, 3872, 4160, 4240, 6112, 6160, 6470, 6608, 6784, 6800, 6992, 7088, 7232,
    7248, 42528, 43216, 43264, 43472, 43504, 43600, 44016, 65296, 66720, 68912, 69734,
    69872, 69942, 70096, 70384, 70736, 70864, 71248, 71360, 71472, 71904, 72016, 72784,
    73040, 73120, 92768, 92864, 93008, 120782, 120792, 120802, 120812, 120822, 123200,
    123632, 125264, 130032]

def decimal (c : Char) : Option Nat :=
  zeros.findSome? fun first =>
    if first ≤ c.toNat ∧ c.toNat ≤ first + 9 then some (c.toNat - first) else none

def digits (value : Nat) : Text → Option Nat
  | [] => some value
  | '_' :: c :: rest => (decimal c).bind fun digit => digits (10 * value + digit) rest
  | c :: rest => (decimal c).bind fun digit => digits (10 * value + digit) rest

/-- An underscore stands between two digits only. -/
def natural : Text → Option Nat
  | [] => none
  | c :: rest => (decimal c).bind fun digit => digits digit rest

/-- `int` of a text; `none` stands for a ValueError. -/
def int (text : Text) : Option Int :=
  match trim isBlank text with
  | '-' :: rest => (natural rest).map fun magnitude : Nat => -(magnitude : Int)
  | '+' :: rest => (natural rest).map Int.ofNat
  | unsigned => (natural unsigned).map Int.ofNat

/-- `str` of a whole number. -/
def str (value : Int) : Text :=
  if value < 0 then '-' :: Nat.toDigits 10 value.natAbs
  else Nat.toDigits 10 value.natAbs

/-! ### Reading a written number -/

theorem toNat_of_isDigit {c : Char} (digit : c.isDigit = true) :
    48 ≤ c.toNat ∧ c.toNat ≤ 57 := by
  simp only [Char.isDigit, Bool.and_eq_true, decide_eq_true_eq] at digit
  exact digit

theorem decimal_of_isDigit {c : Char} (digit : c.isDigit = true) :
    decimal c = some (c.toNat - 48) := by
  unfold decimal zeros
  rw [List.findSome?_cons, if_pos (toNat_of_isDigit digit)]

theorem isBlank_of_isDigit {c : Char} (digit : c.isDigit = true) :
    isBlank c = false := by
  have range := toNat_of_isDigit digit
  simp only [isBlank, isSpace, List.mem_cons, List.not_mem_nil, or_false,
    Bool.and_eq_false_imp, decide_eq_true_eq]
  omega

theorem digits_of_isDigit (value : Nat) {text : Text}
    (every : ∀ c ∈ text, c.isDigit = true) :
    digits value text = some (Nat.ofDigitChars 10 text value) := by
  induction text generalizing value with
  | nil => rw [digits, Nat.ofDigitChars_nil]
  | cons c rest ih =>
      have digit := every c List.mem_cons_self
      have notUnderscore : c ≠ '_' := by
        rintro rfl
        contradiction
      have step : digits value (c :: rest) =
          (decimal c).bind fun digit => digits (10 * value + digit) rest := by
        rw [digits]
        intro _ _ same
        cases same
        contradiction
      rw [step, decimal_of_isDigit digit, Option.bind_some,
        ih _ fun other later => every other (List.mem_cons_of_mem _ later),
        Nat.ofDigitChars_cons]
      rfl

theorem isDigit_of_mem_toDigits {value : Nat} {c : Char}
    (member : c ∈ Nat.toDigits 10 value) : c.isDigit = true :=
  Nat.isDigit_of_mem_toDigits (by decide) (by decide) member

theorem natural_toDigits (value : Nat) :
    natural (Nat.toDigits 10 value) = some value := by
  obtain ⟨c, rest, same⟩ := List.exists_cons_of_ne_nil (Nat.toDigits_ne_nil (n := value))
  have every : ∀ other ∈ c :: rest, other.isDigit = true := by
    intro other member
    rw [← same] at member
    exact isDigit_of_mem_toDigits member
  have written : Nat.ofDigitChars 10 (c :: rest) 0 = value := by
    rw [← same, Nat.ofDigitChars_ten_toDigits]
  rw [Nat.ofDigitChars_cons] at written
  rw [same, natural, decimal_of_isDigit (every c List.mem_cons_self), Option.bind_some,
    digits_of_isDigit _ fun other later => every other (List.mem_cons_of_mem _ later)]
  simpa using written

theorem trim_of_forall {blank : Char → Bool} {text : Text}
    (none : ∀ c ∈ text, blank c = false) : trim blank text = text := by
  have front : text.dropWhile blank = text := by
    apply List.dropWhile_eq_self_iff.mpr
    intro _
    simp [none _ (List.getElem_mem _)]
  unfold trim
  rw [front]
  apply List.rdropWhile_eq_self_iff.mpr
  intro inhabited
  simp [none _ (List.getLast_mem inhabited)]

theorem isBlank_of_mem_str {value : Int} {c : Char} (member : c ∈ str value) :
    isBlank c = false := by
  unfold str at member
  split at member
  · rcases List.mem_cons.mp member with rfl | digit
    · decide
    · exact isBlank_of_isDigit (isDigit_of_mem_toDigits digit)
  · exact isBlank_of_isDigit (isDigit_of_mem_toDigits member)

theorem int_str (value : Int) : int (str value) = some value := by
  have untrimmed : trim isBlank (str value) = str value :=
    trim_of_forall fun _ member => isBlank_of_mem_str member
  unfold int
  rw [untrimmed]
  unfold str
  by_cases negative : value < 0
  · rw [if_pos negative]
    simp only [natural_toDigits, Option.map_some, Option.some.injEq]
    omega
  · rw [if_neg negative]
    obtain ⟨c, rest, same⟩ :=
      List.exists_cons_of_ne_nil (Nat.toDigits_ne_nil (n := value.natAbs))
    have digit : c.isDigit = true := by
      apply isDigit_of_mem_toDigits
      rw [same]
      exact List.mem_cons_self
    have read := natural_toDigits value.natAbs
    rw [same] at read ⊢
    have notMinus : c ≠ '-' := by
      rintro rfl
      contradiction
    have notPlus : c ≠ '+' := by
      rintro rfl
      contradiction
    split
    · next equal => exact absurd (List.cons.inj equal).1 notMinus
    · next equal => exact absurd (List.cons.inj equal).1 notPlus
    · rw [read, Option.map_some, Int.ofNat_eq_natCast,
        Int.natAbs_of_nonneg (Int.not_lt.mp negative)]

end Text

end Crocofix
