/-
The two checksum calculations of the message layer.

`char` is signed.  The encoder reduces the bytes of a buffer into an `int` and
takes the remainder by 256, which C++ gives the sign of the sum.  The decoder
reduces the bytes of each call into a `char` and adds that to an unsigned
counter, taking the remainder once the message is complete.
-/

import Crocofix.Fix
import Mathlib.Data.Int.Basic
import Mathlib.Data.List.Induction
import Mathlib.Algebra.BigOperators.Group.List.Basic

namespace Crocofix

open Numeral

namespace Checksum

/-- `std::reduce(first, last)` over `char`: the sum is a `char` as well. -/
def reduceChar (buffer : Bytes) : Int8 :=
  buffer.foldl (fun sum byte => sum + byte.toInt8) 0

/-- `std::reduce(first, last, 0)` over `char`: the sum is an `int`.  It cannot
leave the range of an `int` below 2^24 bytes; beyond that it wraps, as the
compiled code does. -/
def reduceInt (buffer : Bytes) : Int32 :=
  buffer.foldl (fun sum byte => sum + byte.toInt8.toInt32) 0

def calculateChecksum (buffer : Bytes) : UInt32 :=
  (reduceInt buffer % 256).toUInt32

/-- `m_decode_checksum += std::reduce(buffer.begin(), checksum_current)`. -/
def accumulate (checksum : UInt32) (buffer : Bytes) : UInt32 :=
  checksum + (reduceChar buffer).toInt32.toUInt32

/-- `std::format("{:03}", value)`. -/
def zeroPadded3 (value : Nat) : Bytes :=
  List.replicate (3 - (decimal value).length) 48 ++ decimal value

def formatChecksum (checksum : UInt32) : Except Exception Bytes :=
  if 999 < checksum then
    .error ⟨.runtimeError,
      ascii "Cannot format CheckSum that is greater than 3 digits '" ++
        decimal checksum.toNat ++ ascii "'"⟩
  else .ok (zeroPadded3 checksum.toNat)

/-! ### The sum of the bytes -/

def byteSum (buffer : Bytes) : Nat := (buffer.map UInt8.toNat).sum

/-- The sum of the bytes taken as signed characters. -/
def charSum (buffer : Bytes) : Int :=
  (byteSum buffer : Int) - 256 * (buffer.countP fun byte => 128 ≤ byte)

@[simp] theorem byteSum_nil : byteSum [] = 0 := rfl

theorem byteSum_append (front back : Bytes) :
    byteSum (front ++ back) = byteSum front + byteSum back := by
  simp [byteSum]

theorem charSum_append (front back : Bytes) :
    charSum (front ++ back) = charSum front + charSum back := by
  simp only [charSum, byteSum_append, List.countP_append]
  omega

theorem charSum_singleton (byte : UInt8) :
    charSum [byte] = byte.toInt8.toInt := by
  have bound := byte.toNat_lt
  have value : byte.toInt8.toInt = (byte.toNat : Int).bmod 256 := by
    change byte.toBitVec.toInt = _
    rw [BitVec.toInt_eq_toNat_bmod]
    rfl
  rw [value, Int.bmod_def]
  have highIff : (128 ≤ byte) ↔ 128 ≤ byte.toNat := UInt8.le_iff_toNat_le
  by_cases high : 128 ≤ byte
  · have highNat := highIff.mp high
    simp only [charSum, byteSum, List.map_cons, List.map_nil, List.sum_cons,
      List.sum_nil, List.countP_cons, List.countP_nil, high, decide_true,
      if_true]
    omega
  · have lowNat : ¬ 128 ≤ byte.toNat := fun contra => high (highIff.mpr contra)
    simp only [charSum, byteSum, List.map_cons, List.map_nil, List.sum_cons,
      List.sum_nil, List.countP_cons, List.countP_nil, high, decide_false,
      Bool.false_eq_true, if_false]
    omega

theorem charSum_emod (buffer : Bytes) :
    charSum buffer % 256 = (byteSum buffer : Int) % 256 := by
  unfold charSum
  omega

/-! ### Both reductions agree with it modulo 256 -/

theorem reduceChar_append_singleton (buffer : Bytes) (byte : UInt8) :
    reduceChar (buffer ++ [byte]) = reduceChar buffer + byte.toInt8 := by
  simp [reduceChar]

theorem reduceInt_append_singleton (buffer : Bytes) (byte : UInt8) :
    reduceInt (buffer ++ [byte]) = reduceInt buffer + byte.toInt8.toInt32 := by
  simp [reduceInt]

theorem reduceChar_toInt (buffer : Bytes) :
    (reduceChar buffer).toInt = (charSum buffer).bmod 256 := by
  induction buffer using List.reverseRecOn with
  | nil => rfl
  | append_singleton front byte ih =>
      rw [reduceChar_append_singleton, Int8.toInt_add, ih, charSum_append,
        charSum_singleton]
      simp

theorem reduceInt_toInt (buffer : Bytes) :
    (reduceInt buffer).toInt = (charSum buffer).bmod 4294967296 := by
  induction buffer using List.reverseRecOn with
  | nil => rfl
  | append_singleton front byte ih =>
      rw [reduceInt_append_singleton, Int32.toInt_add, ih, charSum_append,
        charSum_singleton]
      simp

theorem toNat_toUInt32 (value : Int32) :
    (value.toUInt32.toNat : Int) = value.toInt % 4294967296 := by
  change (value.toBitVec.toNat : Int) = value.toBitVec.toInt % 4294967296
  have bound := value.toBitVec.isLt
  rw [BitVec.toInt_eq_toNat_bmod, Int.bmod_def]
  omega

theorem accumulate_mod (checksum : UInt32) (buffer : Bytes) :
    (accumulate checksum buffer).toNat % 256 =
      (checksum.toNat + byteSum buffer) % 256 := by
  have reduced : ((reduceChar buffer).toInt32.toUInt32.toNat : Int) % 256 =
      (byteSum buffer : Int) % 256 := by
    have residue := charSum_emod buffer
    rw [toNat_toUInt32, Int8.toInt_toInt32, reduceChar_toInt, Int.bmod_def]
    omega
  simp only [accumulate, UInt32.toNat_add]
  omega

/-! ### The remainder that the encoder takes -/

/-- The `int` sum of the buffer is not negative, or its remainder is zero
whatever its sign.  For a buffer below 2^24 bytes the `int` sum is the sum of
the bytes as signed characters. -/
def NonnegativeRemainder (buffer : Bytes) : Prop :=
  0 ≤ (charSum buffer).bmod 4294967296 ∨ byteSum buffer % 256 = 0

instance (buffer : Bytes) : Decidable (NonnegativeRemainder buffer) := by
  unfold NonnegativeRemainder
  infer_instance

theorem charSum_bmod_emod (buffer : Bytes) :
    (charSum buffer).bmod 4294967296 % 256 = (byteSum buffer : Int) % 256 := by
  have residue := charSum_emod buffer
  rw [Int.bmod_def]
  omega

theorem remainder_toInt (buffer : Bytes) :
    (reduceInt buffer % 256).toInt =
      ((charSum buffer).bmod 4294967296).tmod 256 := by
  rw [Int32.toInt_mod, reduceInt_toInt]
  rfl

theorem calculateChecksum_of_nonnegativeRemainder {buffer : Bytes}
    (nonnegative : NonnegativeRemainder buffer) :
    (calculateChecksum buffer).toNat = byteSum buffer % 256 := by
  have residue := charSum_bmod_emod buffer
  have value := remainder_toInt buffer
  have unsigned := toNat_toUInt32 (reduceInt buffer % 256)
  unfold calculateChecksum
  set sum := (charSum buffer).bmod 4294967296
  rcases nonnegative with positive | divisible
  · rw [Int.tmod_eq_emod_of_nonneg positive] at value
    omega
  · have zero : sum.tmod 256 = 0 :=
      Int.tmod_eq_zero_of_dvd (Int.dvd_of_emod_eq_zero (by omega))
    omega

/-- A negative sum leaves a negative remainder, which becomes a huge unsigned
value. -/
theorem calculateChecksum_of_negativeRemainder {buffer : Bytes}
    (negative : ¬ NonnegativeRemainder buffer) :
    4294967040 < (calculateChecksum buffer).toNat := by
  have residue := charSum_bmod_emod buffer
  have value := remainder_toInt buffer
  have unsigned := toNat_toUInt32 (reduceInt buffer % 256)
  unfold calculateChecksum
  simp only [NonnegativeRemainder, not_or, not_le] at negative
  set sum := (charSum buffer).bmod 4294967296
  have remainder : sum.tmod 256 = -((-sum) % 256) := by
    rw [← Int.tmod_eq_emod_of_nonneg (by omega), Int.neg_tmod, neg_neg]
  omega

/-- The encoder's checksum is the sum of the bytes modulo 256 exactly for the
buffers whose signed sum leaves no negative remainder. -/
theorem calculateChecksum_eq_iff (buffer : Bytes) :
    (calculateChecksum buffer).toNat = byteSum buffer % 256 ↔
      NonnegativeRemainder buffer := by
  constructor
  · intro same
    by_contra negative
    have huge := calculateChecksum_of_negativeRemainder negative
    omega
  · exact calculateChecksum_of_nonnegativeRemainder

/-! ### Formatting -/

theorem formatChecksum_of_lt {checksum : UInt32} (small : checksum.toNat < 1000) :
    formatChecksum checksum = .ok (zeroPadded3 checksum.toNat) := by
  have fits : ¬ 999 < checksum := by
    rw [UInt32.lt_iff_toNat_lt]
    simpa using Nat.le_of_lt_succ small
  simp [formatChecksum, fits]

theorem formatChecksum_error_of_le {checksum : UInt32}
    (large : 1000 ≤ checksum.toNat) :
    ∃ exception, formatChecksum checksum = .error exception := by
  have overflow : 999 < checksum := by
    rw [UInt32.lt_iff_toNat_lt]
    exact large
  exact ⟨_, if_pos overflow⟩

theorem eq_of_formatChecksum {checksum : UInt32} {text : Bytes}
    (formatted : formatChecksum checksum = .ok text) :
    text = zeroPadded3 checksum.toNat := by
  unfold formatChecksum at formatted
  split at formatted
  · cases formatted
  · injection formatted with same
    exact same.symm

theorem zeroPadded3_length {value : Nat} (small : value < 1000) :
    (zeroPadded3 value).length = 3 := by
  have short : (decimal value).length ≤ 3 := by
    rw [decimal_eq_if]
    split
    · simp
    · rw [decimal_eq_if]
      split
      · simp
      · rw [decimal_eq_if, if_pos (by omega)]
        simp
  rw [zeroPadded3, List.length_append, List.length_replicate]
  omega

theorem formatChecksum_length {checksum : UInt32} {text : Bytes}
    (formatted : formatChecksum checksum = .ok text) : text.length = 3 := by
  unfold formatChecksum at formatted
  split at formatted
  · cases formatted
  · next fits =>
      injection formatted with same
      rw [UInt32.lt_iff_toNat_lt] at fits
      change ¬ 999 < checksum.toNat at fits
      rw [← same]
      exact zeroPadded3_length (by omega)

theorem formatChecksum_calculateChecksum {buffer : Bytes}
    (nonnegative : NonnegativeRemainder buffer) :
    formatChecksum (calculateChecksum buffer) =
      .ok (zeroPadded3 (byteSum buffer % 256)) := by
  have value := calculateChecksum_of_nonnegativeRemainder nonnegative
  rw [formatChecksum_of_lt (by omega), value]

theorem formatChecksum_calculateChecksum_error {buffer : Bytes}
    (negative : ¬ NonnegativeRemainder buffer) :
    ∃ exception, formatChecksum (calculateChecksum buffer) = .error exception :=
  formatChecksum_error_of_le
    (by have huge := calculateChecksum_of_negativeRemainder negative; omega)

end Checksum

end Crocofix
