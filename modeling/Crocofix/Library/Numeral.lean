/-
Integer text conversions of the C++ standard library over raw bytes.

A value is written by `decimal` and read back either by `stoi`, which skips
blanks, accepts a sign and ignores whatever follows the digits, or by
`fromChars`, which accepts a minus sign only.  Both readers reject a value
outside the range of a 32 bit `int`.
-/

import Mathlib.Data.List.TakeWhile
import Mathlib.Tactic.IntervalCases

namespace Crocofix

/-- The contents of a `std::string` or of a buffer of `char`. -/
abbrev Bytes := List UInt8

def ascii (text : String) : Bytes :=
  text.toList.map fun c => UInt8.ofNat c.toNat

/-- The standard exception classes that the modelled code throws or lets
escape. -/
inductive ExceptionKind
  | invalidArgument
  | outOfRange
  | lengthError
  | logicError
  | runtimeError
  | systemError
deriving DecidableEq, Repr

structure Exception where
  kind : ExceptionKind
  what : Bytes
deriving DecidableEq, Repr

namespace Numeral

/-- `std::to_string` of an unsigned value. -/
def decimal (value : Nat) : Bytes :=
  (Nat.toDigits 10 value).map fun c => UInt8.ofNat c.toNat

/-- `std::to_string` and `std::to_chars` of a signed value. -/
def decimalInt (value : Int) : Bytes :=
  if value < 0 then 45 :: decimal value.natAbs else decimal value.natAbs

def isDigit (byte : UInt8) : Bool := 48 ≤ byte && byte ≤ 57

/-- `isspace` of the "C" locale. -/
def isSpace (byte : UInt8) : Bool := byte == 32 || (9 ≤ byte && byte ≤ 13)

def digitsValue (digits : Bytes) : Nat :=
  digits.foldl (fun value byte => 10 * value + (byte.toNat - 48)) 0

def fitsInt (value : Int) : Bool :=
  -2147483648 ≤ value && value ≤ 2147483647

def signed (negative : Bool) (magnitude : Nat) : Int :=
  if negative then -(magnitude : Int) else magnitude

/-- The optional sign that `strtol` accepts. -/
def takeSign : Bytes → Bool × Bytes
  | [] => (false, [])
  | byte :: rest =>
      if byte = 45 then (true, rest)
      else if byte = 43 then (false, rest)
      else (false, byte :: rest)

def stoi (text : Bytes) : Except Exception Int32 :=
  let (negative, rest) := takeSign (text.dropWhile isSpace)
  let digits := rest.takeWhile isDigit
  if digits = [] then
    .error ⟨.invalidArgument, ascii "stoi"⟩
  else if fitsInt (signed negative (digitsValue digits)) then
    .ok (Int32.ofInt (signed negative (digitsValue digits)))
  else
    .error ⟨.outOfRange, ascii "stoi"⟩

/-- `std::from_chars` into an `int`; `none` stands for a non-zero error code. -/
def fromChars (text : Bytes) : Option Int32 :=
  let negative := text.head? == some 45
  let digits := (if negative then text.tail else text).takeWhile isDigit
  if digits = [] then none
  else if fitsInt (signed negative (digitsValue digits)) then
    some (Int32.ofInt (signed negative (digitsValue digits)))
  else none

/-- `number_of_digits(uint64_t)`: one, plus one for every power of ten from
10 to 10^19 that the value reaches. -/
def numberOfDigits64 (value : UInt64) : UInt32 :=
  (List.range 19).foldl
    (fun count power => count + if 10 ^ (power + 1) ≤ value.toNat then 1 else 0) 1

/-- `static_cast<uint64_t>(std::abs(value))`.  The least `int` has no absolute value: as
compiled, `std::abs` returns it as it is, and the cast extends its sign. -/
def widenedAbs (value : Int32) : UInt64 :=
  if value = Int32.minValue then 18446744071562067968
  else UInt64.ofNat value.toInt.natAbs

/-- `number_of_digits(int)`. -/
def numberOfDigits (value : Int32) : UInt32 := numberOfDigits64 (widenedAbs value)

/-! ### Digits of a written value -/

theorem decimal_eq_if (value : Nat) :
    decimal value =
      if value < 10 then [UInt8.ofNat (48 + value)]
      else decimal (value / 10) ++ [UInt8.ofNat (48 + value % 10)] := by
  have digitByte (digit : Nat) (small : digit < 10) :
      UInt8.ofNat (Nat.digitChar digit).toNat = UInt8.ofNat (48 + digit) := by
    interval_cases digit <;> rfl
  unfold decimal
  rw [Nat.toDigits_eq_if (by omega)]
  split
  · next small => simp [digitByte value small]
  · simp [digitByte (value % 10) (Nat.mod_lt _ (by omega))]

theorem toNat_digitByte (digit : Nat) (small : digit < 10) :
    (UInt8.ofNat (48 + digit)).toNat = 48 + digit := by
  simp only [UInt8.toNat_ofNat']
  omega

theorem isDigit_digitByte (digit : Nat) (small : digit < 10) :
    isDigit (UInt8.ofNat (48 + digit)) = true := by
  interval_cases digit <;> rfl

theorem decimal_ne_nil (value : Nat) : decimal value ≠ [] := by
  simp [decimal]

theorem isDigit_of_mem_decimal {value : Nat} {byte : UInt8}
    (member : byte ∈ decimal value) : isDigit byte = true := by
  induction value using Nat.strongRecOn with
  | ind value ih =>
      rw [decimal_eq_if] at member
      split at member
      · next small =>
          rw [List.mem_singleton.mp member]
          exact isDigit_digitByte value small
      · rcases List.mem_append.mp member with early | last
        · exact ih (value / 10) (by omega) early
        · rw [List.mem_singleton.mp last]
          exact isDigit_digitByte _ (Nat.mod_lt _ (by omega))

theorem digitsValue_append (digits : Bytes) (byte : UInt8) :
    digitsValue (digits ++ [byte]) =
      10 * digitsValue digits + (byte.toNat - 48) := by
  simp [digitsValue]

theorem digitsValue_decimal (value : Nat) :
    digitsValue (decimal value) = value := by
  induction value using Nat.strongRecOn with
  | ind value ih =>
      rw [decimal_eq_if]
      split
      · next small =>
          change 10 * 0 + ((UInt8.ofNat (48 + value)).toNat - 48) = value
          rw [toNat_digitByte value small]
          omega
      · rw [digitsValue_append, ih (value / 10) (by omega),
          toNat_digitByte _ (Nat.mod_lt _ (by omega))]
        omega

theorem decimal_injective : Function.Injective decimal := by
  intro left right same
  have values := congrArg digitsValue same
  rwa [digitsValue_decimal, digitsValue_decimal] at values

theorem takeWhile_decimal (value : Nat) :
    (decimal value).takeWhile isDigit = decimal value :=
  List.takeWhile_eq_self_iff.mpr fun _ member => isDigit_of_mem_decimal member

theorem head?_decimal (value : Nat) :
    ∃ byte tail, decimal value = byte :: tail ∧ isDigit byte = true := by
  obtain ⟨byte, tail, same⟩ := List.exists_cons_of_ne_nil (decimal_ne_nil value)
  have member : byte ∈ decimal value := by simp [same]
  exact ⟨byte, tail, same, isDigit_of_mem_decimal member⟩

/-! ### Reading a written value -/

theorem takeSign_of_isDigit {byte : UInt8} (rest : Bytes)
    (digit : isDigit byte = true) :
    takeSign (byte :: rest) = (false, byte :: rest) := by
  have notMinus : byte ≠ 45 := by rintro rfl; contradiction
  have notPlus : byte ≠ 43 := by rintro rfl; contradiction
  simp [takeSign, notMinus, notPlus]

theorem isSpace_of_isDigit {byte : UInt8} (digit : isDigit byte = true) :
    isSpace byte = false := by
  simp only [isDigit, isSpace, Bool.and_eq_true, decide_eq_true_eq] at *
  grind

theorem stoi_digits {text : Bytes} (written : text ≠ [])
    (digits : ∀ byte ∈ text, isDigit byte = true) :
    stoi text =
      if digitsValue text < 2147483648 then .ok (Int32.ofNat (digitsValue text))
      else .error ⟨.outOfRange, ascii "stoi"⟩ := by
  obtain ⟨byte, tail, same⟩ := List.exists_cons_of_ne_nil written
  have digit : isDigit byte = true := digits byte (by simp [same])
  have blanks : text.dropWhile isSpace = text := by
    rw [same, List.dropWhile_cons_of_neg (by simp [isSpace_of_isDigit digit])]
  have unsigned : takeSign text = (false, text) := by
    rw [same, takeSign_of_isDigit tail digit]
  have whole : text.takeWhile isDigit = text := List.takeWhile_eq_self_iff.mpr digits
  simp only [stoi, blanks, unsigned, whole, written, signed, fitsInt]
  generalize digitsValue text = value
  by_cases small : value < 2147483648
  · have fits : (value : Int) ≤ 2147483647 := by omega
    have lower : (-2147483648 : Int) ≤ (value : Int) := by omega
    simp [small, fits, lower, Int32.ofInt_eq_ofNat]
  · have overflow : ¬ (value : Int) ≤ 2147483647 := by omega
    simp [small, overflow]

theorem stoi_decimal (value : Nat) :
    stoi (decimal value) =
      if value < 2147483648 then .ok (Int32.ofNat value)
      else .error ⟨.outOfRange, ascii "stoi"⟩ := by
  have read := stoi_digits (decimal_ne_nil value) fun _ => isDigit_of_mem_decimal
  rwa [digitsValue_decimal] at read

theorem stoi_decimal_of_lt {value : Nat} (small : value < 2147483648) :
    ∃ parsed, stoi (decimal value) = .ok parsed ∧ ¬ parsed < 0 ∧
      parsed.toInt.toNat = value := by
  have same : (Int32.ofNat value).toInt = value := Int32.toInt_ofNat_of_lt small
  refine ⟨Int32.ofNat value, by rw [stoi_decimal, if_pos small], ?_, by
    rw [same, Int.toNat_natCast]⟩
  rw [Int32.lt_iff_toInt_lt, same]
  simp

/-- A 32 bit counter is read back exactly when it is below 2^31. -/
theorem stoi_decimal_uint32 (value : UInt32) (small : value < 2147483648) :
    stoi (decimal value.toNat) = .ok value.toInt32 := by
  have bound : value.toNat < 2147483648 := small
  rw [stoi_decimal, if_pos bound]
  exact congrArg (Except.ok ∘ Int32.ofUInt32) UInt32.ofNat_toNat

/-- `std::from_chars` reads back every `int` that `std::to_chars` wrote. -/
theorem fromChars_decimalInt (tag : Int32) :
    fromChars (decimalInt tag.toInt) = some tag := by
  have lower := tag.le_toInt
  have upper := tag.toInt_lt
  obtain ⟨byte, tail, same, digit⟩ := head?_decimal tag.toInt.natAbs
  have notMinus : byte ≠ 45 := by rintro rfl; contradiction
  have fits : fitsInt tag.toInt = true := by
    simp only [fitsInt, Bool.and_eq_true, decide_eq_true_eq]
    omega
  by_cases negative : tag.toInt < 0
  · have value : signed true tag.toInt.natAbs = tag.toInt := by
      simp only [signed, if_true]
      omega
    simp [fromChars, decimalInt, negative, takeWhile_decimal,
      digitsValue_decimal, decimal_ne_nil, value, fits]
  · have value : signed false tag.toInt.natAbs = tag.toInt := by
      simp only [signed, Bool.false_eq_true, if_false]
      omega
    have unsigned : (decimal tag.toInt.natAbs).head? ≠ some 45 := by
      simp [same, notMinus]
    have plain : ((decimal tag.toInt.natAbs).head? == some 45) = false := by
      simpa using unsigned
    simp [fromChars, decimalInt, negative, plain, takeWhile_decimal,
      digitsValue_decimal, decimal_ne_nil, value, fits]

/-! ### Texts that are more than digits -/

structure Denotes (text : Bytes) (value : Nat) : Prop where
  written : text ≠ []
  digits : ∀ byte ∈ text, isDigit byte = true
  value : digitsValue text = value

def ignored (text : Bytes) : Bytes :=
  (takeSign (text.dropWhile isSpace)).2.dropWhile isDigit

/-- Nothing stands in front of the digits that `stoi` reads or behind them. -/
structure Bare (text : Bytes) : Prop where
  unblanked : text.dropWhile isSpace = text
  unsigned : (takeSign text).2 = text
  unfollowed : ignored text = []

theorem bare_iff_digits (text : Bytes) :
    Bare text ↔ ∀ byte ∈ text, isDigit byte = true := by
  constructor
  · intro bare
    have rest := bare.unfollowed
    unfold ignored at rest
    rw [bare.unblanked, bare.unsigned] at rest
    exact List.dropWhile_eq_nil_iff.mp rest
  · intro digits
    have unblanked : text.dropWhile isSpace = text := by
      cases text with
      | nil => rfl
      | cons byte rest =>
          have digit := digits byte List.mem_cons_self
          rw [List.dropWhile_cons_of_neg (by simp [isSpace_of_isDigit digit])]
    have unsigned : (takeSign text).2 = text := by
      cases text with
      | nil => rfl
      | cons byte rest =>
          rw [takeSign_of_isDigit rest (digits byte List.mem_cons_self)]
    refine ⟨unblanked, unsigned, ?_⟩
    unfold ignored
    rw [unblanked, unsigned]
    exact List.dropWhile_eq_nil_iff.mpr digits

theorem toNat_toUInt32_ofNat {value : Nat} (small : value < 2147483648) :
    (Int32.ofNat value).toUInt32.toNat = value := by
  change (UInt32.ofNat value).toNat = value
  rw [UInt32.toNat_ofNat']
  omega

/-- A text that `stoi` accepts is the numeral of the number that is used where
nothing stands around its digits. -/
theorem denotes_iff_bare {text : Bytes} {parsed : Int32}
    (read : stoi text = .ok parsed) :
    Denotes text parsed.toUInt32.toNat ↔ Bare text := by
  rw [bare_iff_digits]
  constructor
  · exact Denotes.digits
  · intro digits
    have written : text ≠ [] := by
      rintro rfl
      cases read
    rw [stoi_digits written digits] at read
    by_cases small : digitsValue text < 2147483648
    · rw [if_pos small] at read
      injection read with same
      refine ⟨written, digits, ?_⟩
      rw [← same, toNat_toUInt32_ofNat small]
    · rw [if_neg small] at read
      cases read

/-! ### The number of digits -/

theorem decimal_length_le_iff {value digits : Nat} (some : 0 < digits) :
    (decimal value).length ≤ digits ↔ value < 10 ^ digits := by
  unfold decimal
  rw [List.length_map]
  exact Nat.length_toDigits_le_iff (by decide) some

/-- Of the first powers of ten a value reaches those that have fewer digits. -/
theorem countPowers (value powers : Nat) (start : UInt32)
    (room : start.toNat + powers < 4294967296) :
    ((List.range powers).foldl
      (fun count power => count + if 10 ^ (power + 1) ≤ value then 1 else 0) start).toNat =
      start.toNat + min powers ((decimal value).length - 1) := by
  induction powers with
  | zero => simp
  | succ powers ih =>
      have before := ih (by omega)
      rw [List.range_succ, List.foldl_append, List.foldl_cons, List.foldl_nil]
      have reached := @decimal_length_le_iff value (powers + 1) (Nat.succ_pos _)
      generalize (List.range powers).foldl _ start = count at before ⊢
      by_cases small : value < 10 ^ (powers + 1)
      · have few := reached.mpr small
        rw [if_neg (Nat.not_le.mpr small), UInt32.add_zero, before]
        omega
      · have many : ¬ (decimal value).length ≤ powers + 1 := fun few => small (reached.mp few)
        rw [if_pos (Nat.not_lt.mp small), UInt32.toNat_add, before]
        have one : (1 : UInt32).toNat = 1 := rfl
        omega

theorem numberOfDigits64_toNat (value : UInt64) :
    (numberOfDigits64 value).toNat = (decimal value.toNat).length := by
  have counted := countPowers value.toNat 19 1 (by decide)
  have bounded : (decimal value.toNat).length ≤ 20 :=
    (decimal_length_le_iff (by decide)).mpr (Nat.lt_trans value.toNat_lt (by decide))
  have written : 0 < (decimal value.toNat).length := List.length_pos_iff.mpr (decimal_ne_nil _)
  have one : (1 : UInt32).toNat = 1 := rfl
  unfold numberOfDigits64
  omega

theorem numberOfDigits_toNat {value : Int32} (notLeast : value ≠ Int32.minValue) :
    (numberOfDigits value).toNat = (decimal value.toInt.natAbs).length := by
  have low := Int32.le_toInt value
  have high := Int32.toInt_lt value
  have small : value.toInt.natAbs < 18446744073709551616 := by omega
  rw [numberOfDigits, numberOfDigits64_toNat, widenedAbs, if_neg notLeast,
    UInt64.toNat_ofNat_of_lt' small]

theorem numberOfDigits_minValue : numberOfDigits Int32.minValue = 20 := by decide

end Numeral

end Crocofix
