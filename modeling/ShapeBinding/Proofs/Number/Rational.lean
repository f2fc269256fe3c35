import Mathlib.Data.Nat.Digits.Defs
import Mathlib.Data.Rat.Cast.Defs
import Mathlib.Tactic.FieldSimp
import Mathlib.Tactic.Ring
import ShapeBinding.Proofs.Accepted
import ShapeBinding.Proofs.Number.Decimal
/-!
# The numbers that decimals stand for

A decimal stands for a rational number, its mantissa times a power of ten, and a number has one normal form at most
(`Decimal.eq_of_mul_zpow_eq`).  So normalizing gives the one decimal that stands for a number
(`Decimal.ofScaled_eq_ok_iff_toRat`), and equal numbers are equal decimals (`Decimal.toRat_injective`).  A decimal is
read just from the texts that denote its number (`Decimal.read_eq_ok_iff_denotes`).
-/
namespace ShapeBinding

theorem trailingZeros_eq_length_takeWhile {n : Nat} (hn : n ≠ 0) :
    trailingZeros n = ((Nat.digits 10 n).takeWhile (· == 0)).length := by
  fun_induction trailingZeros n with
  | case1 n h ih =>
    rw [Nat.digits_def' (by decide) (by omega), List.takeWhile_cons_of_pos (by simp [h.2]), List.length_cons,
      ih (by omega)]
  | case2 n h =>
    rw [Nat.digits_def' (by decide) (by omega), List.takeWhile_cons_of_neg (by simp; omega), List.length_nil]

namespace Decimal

/-- The number that a decimal stands for. -/
def toRat (d : Decimal) : ℚ := d.mantissa.toInt * 10 ^ d.exponent.toInt

/-! ## One number, one normal form -/

theorem ten_dvd_of_mul_zpow_eq {a b i j : Int} (hlt : i < j) (h : (a : ℚ) * 10 ^ i = b * 10 ^ j) : (10 : Int) ∣ a := by
  obtain ⟨k, rfl⟩ : ∃ k : Nat, j = i + (k + 1 : Nat) := ⟨(j - i - 1).toNat, by omega⟩
  have hten : (10 : ℚ) ^ i ≠ 0 := zpow_ne_zero i (by norm_num)
  rw [zpow_add₀ (by norm_num), zpow_natCast, mul_left_comm, mul_comm (a : ℚ)] at h
  have hint : a = b * 10 ^ (k + 1) := by exact_mod_cast mul_left_cancel₀ hten h
  exact ⟨b * 10 ^ k, by rw [hint, pow_succ]; ring⟩

/-- **A number has one mantissa that is no multiple of ten.** -/
theorem eq_of_mul_zpow_eq {a b i j : Int} (ha : ¬ (10 : Int) ∣ a) (hb : ¬ (10 : Int) ∣ b)
    (h : (a : ℚ) * 10 ^ i = b * 10 ^ j) : a = b ∧ i = j := by
  have hij : i = j := by
    rcases Int.lt_trichotomy i j with hlt | heq | hgt
    · exact absurd (ten_dvd_of_mul_zpow_eq hlt h) ha
    · exact heq
    · exact absurd (ten_dvd_of_mul_zpow_eq hgt h.symm) hb
  subst hij
  have hten : (10 : ℚ) ^ i ≠ 0 := zpow_ne_zero i (by norm_num)
  exact ⟨by exact_mod_cast mul_right_cancel₀ hten h, rfl⟩

theorem toRat_eq_zero_iff {d : Decimal} : d.toRat = 0 ↔ d = zero := by
  have hten : (10 : ℚ) ^ d.exponent.toInt ≠ 0 := zpow_ne_zero _ (by norm_num)
  constructor
  · intro h
    have hm : d.mantissa.toInt = 0 := by exact_mod_cast (mul_eq_zero.1 h).resolve_right hten
    have hnormal := d.normal
    rw [if_pos hm] at hnormal
    exact ext_toInt hm hnormal
  · rintro rfl
    exact zero_mul _

theorem stripped_mul_pow_trailingZeros (m : Int) : stripped m * 10 ^ trailingZeros m.natAbs = m := by
  have h := Int.ediv_mul_cancel (Int.ofNat_dvd_left.2 (pow_trailingZeros_dvd m.natAbs))
  rw [stripped]
  exact_mod_cast h

/-- **Normalizing gives the decimal that stands for the number**, and nothing if there is none. -/
theorem ofScaled_eq_ok_iff_toRat {m e : Int} {d : Decimal} : ofScaled m e = .ok d ↔ d.toRat = m * 10 ^ e := by
  rw [ofScaled_eq_ok_iff]
  by_cases hm : m = 0
  · subst hm
    simp [toRat_eq_zero_iff]
  · have hvalue : (m : ℚ) * 10 ^ e = stripped m * 10 ^ (e + trailingZeros m.natAbs) := by
      have hm : (m : ℚ) = stripped m * 10 ^ trailingZeros m.natAbs := by
        exact_mod_cast (stripped_mul_pow_trailingZeros m).symm
      rw [zpow_add₀ (by norm_num), zpow_natCast]
      conv_lhs => rw [hm]
      ring
    rw [hvalue]
    simp only [hm, false_and, false_or, ne_eq, not_false_eq_true, true_and]
    constructor
    · rintro ⟨h, h'⟩
      rw [toRat, h, h']
    · intro h
      have hd : d.mantissa.toInt ≠ 0 := fun hzero => by
        rw [toRat, hzero, Int.cast_zero, zero_mul, eq_comm, mul_eq_zero] at h
        rcases h with h | h
        · exact stripped_ne_zero hm (by exact_mod_cast h)
        · exact zpow_ne_zero _ (by norm_num) h
      have hnormal := d.normal
      rw [if_neg hd] at hnormal
      exact eq_of_mul_zpow_eq hnormal (not_ten_dvd_stripped hm) h

/-- **Decimals that stand for the same number are equal.** -/
theorem toRat_injective {d d' : Decimal} (h : d.toRat = d'.toRat) : d = d' := by
  have hd := ofScaled_eq_ok_iff_toRat.2 (rfl : d.toRat = _)
  have hd' := ofScaled_eq_ok_iff_toRat.2 (h.symm : d'.toRat = _)
  exact Except.ok.inj (hd.symm.trans hd')

/-! ## The numbers that texts denote -/

/-- **The number that a text denotes**: what stands before the point counts whole, what stands behind it counts as so
many decimal places, and a minus sign turns the number round. -/
def Denotes (s : List Char) (q : ℚ) : Prop :=
  ∃ negative whole fraction, HasParts s negative whole fraction ∧
    q = (if negative then -1 else 1) * (numeral whole + numeral fraction / 10 ^ fraction.length)

theorem scaled_eq (negative : Bool) (whole fraction : List Char) :
    (((if negative then -(numeral (whole ++ fraction) : Int) else numeral (whole ++ fraction) : Int) : ℚ) *
      10 ^ (-(fraction.length : Int))) =
        (if negative then -1 else 1) * (numeral whole + numeral fraction / 10 ^ fraction.length) := by
  rw [zpow_neg, zpow_natCast, numeral_append]
  cases negative
  · rw [if_neg (by decide), if_neg (by decide)]
    push_cast
    field_simp
  · rw [if_pos rfl, if_pos rfl]
    push_cast
    field_simp

/-- **A decimal is read just from the texts that denote its number.** -/
theorem read_eq_ok_iff_denotes {s : List Char} {d : Decimal} : read s = .ok d ↔ Denotes s d.toRat := by
  constructor
  · intro h
    obtain ⟨negative, whole, fraction, hparts⟩ := exists_hasParts_of_read h
    rw [hparts.read, ofScaled_eq_ok_iff_toRat, scaled_eq] at h
    exact ⟨negative, whole, fraction, hparts, h⟩
  · rintro ⟨negative, whole, fraction, hparts, h⟩
    rw [hparts.read, ofScaled_eq_ok_iff_toRat, scaled_eq, h]

/-! ## The numbers that decimals reach -/

/-- The mantissa and the exponent of the normal form of a nonzero number, in 64 and in 32 bits. -/
structure Scientific (q : ℚ) (m e : Int) : Prop where
  not_ten_dvd : ¬ (10 : Int) ∣ m
  mantissa_range : -2 ^ 63 ≤ m ∧ m < 2 ^ 63
  exponent_range : -2 ^ 31 ≤ e ∧ e < 2 ^ 31
  eq_mul : q = m * 10 ^ e

theorem toRat_eq_iff {d : Decimal} {q : ℚ} : d.toRat = q ↔
    (q = 0 ∧ d.mantissa.toInt = 0 ∧ d.exponent.toInt = 0) ∨ Scientific q d.mantissa.toInt d.exponent.toInt := by
  constructor
  · rintro rfl
    have hnormal := d.normal
    by_cases hm : d.mantissa.toInt = 0
    · rw [if_pos hm] at hnormal
      exact .inl ⟨toRat_eq_zero_iff.2 (ext_toInt hm hnormal), hm, hnormal⟩
    · rw [if_neg hm] at hnormal
      exact .inr ⟨hnormal, ⟨d.mantissa.le_toInt, d.mantissa.toInt_lt⟩, ⟨d.exponent.le_toInt, d.exponent.toInt_lt⟩, rfl⟩
  · rintro (⟨rfl, hm, he⟩ | h)
    · exact toRat_eq_zero_iff.2 (ext_toInt hm he)
    · exact h.eq_mul.symm

theorem exists_toRat_eq_iff {q : ℚ} : (∃ d : Decimal, d.toRat = q) ↔ q = 0 ∨ ∃ m e, Scientific q m e := by
  constructor
  · rintro ⟨d, h⟩
    exact (toRat_eq_iff.1 h).imp (fun h => h.1) fun h => ⟨_, _, h⟩
  · rintro (rfl | ⟨m, e, h⟩)
    · exact ⟨zero, toRat_eq_zero_iff.2 rfl⟩
    · obtain ⟨mantissa, rfl⟩ : ∃ w : Int64, w.toInt = m :=
        ⟨_, Int64.toInt_ofInt_of_le h.mantissa_range.1 h.mantissa_range.2⟩
      obtain ⟨exponent, rfl⟩ : ∃ w : Int32, w.toInt = e :=
        ⟨_, Int32.toInt_ofInt_of_le h.exponent_range.1 h.exponent_range.2⟩
      have hne : mantissa.toInt ≠ 0 := fun hzero => h.not_ten_dvd (hzero ▸ Int.dvd_zero 10)
      refine ⟨⟨mantissa, exponent, ?_⟩, h.eq_mul.symm⟩
      rw [if_neg hne]
      exact h.not_ten_dvd

/-- **Reading is exact.** A text is read just if it denotes zero or a number whose normal form fits, and what is read is
zero or that normal form. -/
theorem read_exact (s : List Char) :
    ((∃ d, read s = .ok d) ↔ ∃ q, Denotes s q ∧ (q = 0 ∨ ∃ m e, Scientific q m e)) ∧
      ∀ d, (read s = .ok d ↔ Denotes s d.toRat) ∧
        (read s = .ok d ↔ ∃ q, Denotes s q ∧
          (q = 0 ∧ d.mantissa.toInt = 0 ∧ d.exponent.toInt = 0 ∨ Scientific q d.mantissa.toInt d.exponent.toInt)) := by
  refine ⟨?_, fun d => ⟨read_eq_ok_iff_denotes, ?_⟩⟩
  · simp only [read_eq_ok_iff_denotes, ← exists_toRat_eq_iff]
    constructor
    · rintro ⟨d, h⟩
      exact ⟨_, h, d, rfl⟩
    · rintro ⟨_, h, d, rfl⟩
      exact ⟨d, h⟩
  · simp only [read_eq_ok_iff_denotes, ← toRat_eq_iff]
    constructor
    · intro h
      exact ⟨_, h, rfl⟩
    · rintro ⟨_, h, rfl⟩
      exact h

/-! ## Normal forms of words -/

section Words

variable {m : Int64} {e : Int32}

theorem ofParts?_eq_some_iff {d : Decimal} : ofParts? m e = some d ↔ d.toRat = m.toInt * 10 ^ e.toInt := by
  rw [← ofScaled_eq_ok_iff_toRat, ofParts?_eq]
  cases ofScaled m.toInt e.toInt <;> simp [Except.toOption]

theorem exists_toInt_eq_stripped (m : Int64) : ∃ w : Int64, w.toInt = stripped m.toInt := by
  have hle : (stripped m.toInt).natAbs ≤ m.toInt.natAbs := by
    rw [natAbs_stripped]
    exact Nat.div_le_self ..
  have hsign : 0 ≤ stripped m.toInt → 0 ≤ m.toInt := fun h => by
    rw [← stripped_mul_pow_trailingZeros m.toInt]
    exact Int.mul_nonneg h (Int.pow_nonneg (by decide))
  have hm0 := m.le_toInt
  have hm1 := m.toInt_lt
  exact ⟨_, Int64.toInt_ofInt_of_le (by omega) (by omega)⟩

/-- Normalizing fails only where the exponent leaves its range, at the upper end. -/
theorem ofParts?_eq_none_iff : ofParts? m e = none ↔
    m.toInt ≠ 0 ∧ 2 ^ 31 - 1 < e.toInt + ((Nat.digits 10 m.toInt.natAbs).takeWhile (· == 0)).length := by
  rw [ofParts?_eq, ofScaled]
  by_cases hm : m.toInt = 0
  · rw [dif_pos hm]
    simp [hm, Except.toOption]
  · rw [dif_neg hm, ← trailingZeros_eq_length_takeWhile (by omega)]
    obtain ⟨mantissa, hmantissa⟩ := exists_toInt_eq_stripped m
    have hlower := e.le_toInt
    unfold ofNormal
    split
    · rename_i he
      rw [int32?_eq_none_iff] at he
      simp only [Except.toOption, hm, ne_eq, not_false_eq_true, true_and, true_iff]
      omega
    · rename_i hnone
      rw [← hmantissa, int64?_eq_none_iff] at hnone
      have := mantissa.le_toInt
      have := mantissa.toInt_lt
      omega
    · rename_i exponent _ he _
      rw [int32?_eq_some_iff] at he
      have := exponent.toInt_lt
      simp only [Except.toOption, reduceCtorEq, false_iff, not_and]
      omega

end Words

/-! ## Equality -/

/-- Zero without an exponent, or a mantissa that is no multiple of ten. -/
def IsNormal (m e : Int) : Prop := m = 0 ∧ e = 0 ∨ ¬ (10 : Int) ∣ m

theorem isNormal (d : Decimal) : IsNormal d.mantissa.toInt d.exponent.toInt := by
  have hnormal := d.normal
  by_cases hm : d.mantissa.toInt = 0
  · rw [if_pos hm] at hnormal
    exact .inl ⟨hm, hnormal⟩
  · rw [if_neg hm] at hnormal
    exact .inr hnormal

theorem text_injective {d d' : Decimal} (h : d.text = d'.text) : d = d' := by
  have hchars : d.chars = d'.chars := String.ofList_inj.1 h
  have hd := read_chars d
  rw [hchars, read_chars d'] at hd
  exact (Except.ok.inj hd).symm

/-- **Decimals are equal just if their numbers are.** A mantissa and an exponent are normalized to the one decimal with
their number, unless its exponent is beyond 32 bits.  Every decimal is obtained so, those that are read included; and two
decimals are equal just if they stand for the same number, and just if their texts are the same. -/
theorem ofParts?_exact_and_eq_iff_toRat_eq :
    (∀ (m : Int64) (e : Int32),
      (ofParts? m e = none ↔
        m.toInt ≠ 0 ∧ 2 ^ 31 - 1 < e.toInt + ((Nat.digits 10 m.toInt.natAbs).takeWhile (· == 0)).length) ∧
      ∀ d, ofParts? m e = some d ↔
        d.toRat = m.toInt * 10 ^ e.toInt ∧ IsNormal d.mantissa.toInt d.exponent.toInt) ∧
    (∀ d : Decimal, ofParts? d.mantissa d.exponent = some d) ∧
    ∀ d d' : Decimal, (d = d' ↔ d.toRat = d'.toRat) ∧ (d = d' ↔ d.text = d'.text) := by
  refine ⟨fun m e => ⟨ofParts?_eq_none_iff, fun d => ?_⟩, fun d => ofParts?_eq_some_iff.2 rfl,
    fun d d' => ⟨⟨?_, toRat_injective⟩, ⟨?_, text_injective⟩⟩⟩
  · rw [ofParts?_eq_some_iff]
    exact ⟨fun h => ⟨h, d.isNormal⟩, fun h => h.1⟩
  · rintro rfl
    rfl
  · rintro rfl
    rfl

example : ofParts? (-500) (-2) = ofParts? (-5) 0 ∧ ofParts? 10 2147483647 = none := by decide +kernel

end Decimal
end ShapeBinding
