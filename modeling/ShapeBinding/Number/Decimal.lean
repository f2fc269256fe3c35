import ShapeBinding.Number.FixedWidth
import ShapeBinding.Text.Numeral
/-!
# Exact decimals

A decimal is a 64-bit mantissa times a power of ten with a 32-bit exponent.  It is kept in normal form, in which the
mantissa of a nonzero decimal is no multiple of ten and zero has the exponent zero, so that equal numbers are equal
decimals.  `Decimal.ofParts?` divides a mantissa by ten as long as it can and counts the exponent up; `Decimal.read`
leaves out the zeros at both ends of the digits that it reads.  What either of them gives is what `Decimal.ofScaled`
makes of the number.
-/
namespace ShapeBinding

/-! ## Trailing zeros -/

/-- The number of zeros at the end of a nonzero number's decimal digits. -/
def trailingZeros (n : Nat) : Nat :=
  if n ≠ 0 ∧ n % 10 = 0 then trailingZeros (n / 10) + 1 else 0
termination_by n

theorem pow_trailingZeros_dvd (n : Nat) : 10 ^ trailingZeros n ∣ n := by
  fun_induction trailingZeros n with
  | case1 n h ih =>
    have := Nat.mul_dvd_mul_right ih 10
    rwa [Nat.div_mul_cancel (Nat.dvd_of_mod_eq_zero h.2), ← Nat.pow_succ] at this
  | case2 n h => simp

theorem not_ten_dvd_div_pow_trailingZeros {n : Nat} (hn : n ≠ 0) : ¬ 10 ∣ n / 10 ^ trailingZeros n := by
  fun_induction trailingZeros n with
  | case1 n h ih =>
    rw [Nat.pow_succ, Nat.mul_comm, ← Nat.div_div_eq_div_mul]
    exact ih (by omega)
  | case2 n h => simp only [Nat.pow_zero, Nat.div_one]; omega

/-! ## Decimals -/

structure Decimal where
  mantissa : Int64
  exponent : Int32
  normal : if mantissa.toInt = 0 then exponent.toInt = 0 else ¬ (10 : Int) ∣ mantissa.toInt
  deriving DecidableEq, Repr

namespace Decimal

def zero : Decimal := ⟨0, 0, by decide⟩

instance : Inhabited Decimal := ⟨zero⟩

inductive ReadError where
  | noDigits
  | unexpectedCharacter
  | exponentOutOfRange
  | mantissaTooLarge
  deriving DecidableEq, Repr

def ReadError.message : ReadError → String
  | noDigits => "no digits"
  | unexpectedCharacter => "unexpected character"
  | exponentOutOfRange => "exponent out of range"
  | mantissaTooLarge => "mantissa exceeds 64 bits"

/-- The mantissa of `m` once its trailing zeros are dropped. -/
def stripped (m : Int) : Int := m / (10 ^ trailingZeros m.natAbs : Nat)

theorem natAbs_stripped (m : Int) : (stripped m).natAbs = m.natAbs / 10 ^ trailingZeros m.natAbs := by
  rw [stripped, Int.natAbs_ediv_of_dvd (Int.ofNat_dvd_left.2 (pow_trailingZeros_dvd _)), Int.natAbs_natCast]

theorem not_ten_dvd_stripped {m : Int} (hm : m ≠ 0) : ¬ (10 : Int) ∣ stripped m := by
  intro h
  have := Int.natAbs_dvd_natAbs.2 h
  rw [natAbs_stripped] at this
  exact not_ten_dvd_div_pow_trailingZeros (by omega) this

theorem stripped_ne_zero {m : Int} (hm : m ≠ 0) : stripped m ≠ 0 := fun h =>
  not_ten_dvd_stripped hm (h ▸ Int.dvd_zero 10)

/-- The decimal with a mantissa that is no multiple of ten, if both parts fit.  The exponent is looked at first. -/
def ofNormal (m e : Int) (hm : ¬ (10 : Int) ∣ m) : Except ReadError Decimal :=
  match int32? e, h : int64? m with
  | none, _ => .error .exponentOutOfRange
  | some _, none => .error .mantissaTooLarge
  | some exponent, some mantissa => .ok ⟨mantissa, exponent, by
      have hne : m ≠ 0 := by omega
      rwa [int64?_eq_some_iff.1 h, if_neg hne]⟩

/-- The decimal `m` times ten to the power `e`, in normal form. -/
def ofScaled (m e : Int) : Except ReadError Decimal :=
  if hm : m = 0 then .ok zero else ofNormal (stripped m) (e + trailingZeros m.natAbs) (not_ten_dvd_stripped hm)

theorem toInt_div_ten_mul {m : Int64} (h : m % 10 = 0) : (m / 10).toInt * 10 = m.toInt := by
  have hdvd : (10 : Int) ∣ m.toInt := Word.mod_eq_zero_iff.1 h
  have hdiv : (m / 10).toInt = m.toInt.tdiv 10 := Int64.toInt_div_of_ne_right m 10 (by decide)
  rw [hdiv, Int.tdiv_mul_cancel hdvd]

/-- Moves the zeros at the end of a mantissa into the exponent, one after the other, unless that takes the exponent out
of its range. -/
def normalize? (m : Int64) (e : Int32) (hm : m.toInt ≠ 0) : Option Decimal :=
  if h : m % 10 = 0 then
    match int32? (e.toInt + 1) with
    | none => none
    | some e' => normalize? (m / 10) e' fun hzero => hm (by rw [← toInt_div_ten_mul h, hzero, Int.zero_mul])
  else some ⟨m, e, by
    rw [if_neg hm]
    exact fun hdvd => h (Word.mod_eq_zero_iff.2 hdvd)⟩
termination_by m.toInt.natAbs
decreasing_by
  have := toInt_div_ten_mul h
  omega

/-- The decimal with the given mantissa and exponent, unless normalizing takes the exponent out of its range. -/
def ofParts? (m : Int64) (e : Int32) : Option Decimal := if hm : m.toInt = 0 then some zero else normalize? m e hm

/-! ## Lexical forms -/

def dropTrailingZeros (ds : List Char) : List Char := (ds.reverse.dropWhile (· == '0')).reverse

/-- Reads `-12.50`, `+3`, `.5` or `7.`: digits with at most one point among them, after an optional sign.  The zeros at
the end count for the exponent, and those in front for nothing. -/
def read (s : List Char) : Except ReadError Decimal :=
  let (negative, body) := splitSign s
  let (whole, fraction) := (cutAt '.' body).getD (body, [])
  if whole.isEmpty && fraction.isEmpty then .error .noDigits
  else if !(whole ++ fraction).all Char.isDigit then .error .unexpectedCharacter
  else
    let significant := (whole ++ fraction).dropWhile (· == '0')
    let trimmed := dropTrailingZeros significant
    if trimmed.isEmpty then .ok zero
    else
      let n : Int := numeral trimmed
      let trailing := significant.length - trimmed.length
      ofScaled (if negative then -n else n) ((trailing : Int) - fraction.length)

/-- The canonical form: no exponent mark, no zero that could be left out. -/
def chars (d : Decimal) : List Char :=
  let ds := positional (digits d.mantissa.toInt.natAbs) d.exponent.toInt
  if d.mantissa.toInt < 0 then '-' :: ds else ds

def text (d : Decimal) : String := String.ofList d.chars

end Decimal
end ShapeBinding
