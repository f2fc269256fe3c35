import Mathlib.Data.Nat.Digits.Lemmas
import ShapeBinding.Proofs.Datatype.Builtin
import ShapeBinding.Proofs.Number.Rational
/-!
# Integers and decimals are read alike

A text without a point denotes a number just if it is one of the forms of an integer, and then it denotes that integer
(`Decimal.denotes_iff_integerForm`).  Every integer of 64 bits is a decimal (`Decimal.exists_toRat_eq_toInt`).  So
`xsd:integer` and `xsd:decimal` read such a text as the same number, the first if the number has 64 bits, and the other
integer datatypes read what `xsd:integer` reads as far as they can write it (`Datatypes.decode_integer_agrees`).
-/
namespace ShapeBinding

namespace Decimal

/-- An integer is a number without decimal places. -/
theorem hasParts_of_isNumeral {ds : List Char} (h : isNumeral ds = true) (sign : List Char) {negative : Bool}
    (hsign : sign = ['-'] ∧ negative = true ∨ (sign = ['+'] ∨ sign = []) ∧ negative = false) :
    HasParts (sign ++ ds) negative ds [] := by
  obtain ⟨hne, hdigits⟩ := isNumeral_iff.1 h
  rw [← List.append_nil ds] at hne hdigits
  exact ⟨sign, ds, rfl, hsign, .inl ⟨rfl, rfl⟩, hne, hdigits⟩

/-- **Without a point, a text denotes the integer that it is a form of.** -/
theorem denotes_iff_integerForm {s : List Char} {q : ℚ} (hpoint : '.' ∉ s) :
    Denotes s q ↔ ∃ n : Int, IntegerForm s n ∧ q = n := by
  constructor
  · rintro ⟨negative, whole, fraction, ⟨sign, body, rfl, hsign, hbody, hne, hdigits⟩, rfl⟩
    rcases hbody with ⟨rfl, rfl⟩ | rfl
    · rw [List.append_nil] at hne hdigits
      have hnumeral : isNumeral body = true := isNumeral_iff.2 ⟨hne, hdigits⟩
      rcases hsign with ⟨rfl, rfl⟩ | ⟨rfl | rfl, rfl⟩
      · exact ⟨_, .minus hnumeral, by simp [numeral]⟩
      · exact ⟨_, .plus hnumeral, by simp [numeral]⟩
      · exact ⟨_, .unsigned hnumeral, by simp [numeral]⟩
    · exact absurd (List.mem_append_right _ (List.mem_append_right _ (List.mem_cons_self ..))) hpoint
  · rintro ⟨n, hform, rfl⟩
    cases hform with
    | unsigned h => exact ⟨false, s, [], hasParts_of_isNumeral h [] (.inr ⟨.inr rfl, rfl⟩), by simp [numeral]⟩
    | @plus ds h => exact ⟨false, ds, [], hasParts_of_isNumeral h ['+'] (.inr ⟨.inl rfl, rfl⟩), by simp [numeral]⟩
    | @minus ds h => exact ⟨true, ds, [], hasParts_of_isNumeral h ['-'] (.inl ⟨rfl, rfl⟩), by simp [numeral]⟩

/-- **Every integer of 64 bits is a decimal.** -/
theorem exists_toRat_eq_toInt (n : Int64) : ∃ d : Decimal, d.toRat = n.toInt := by
  cases hparts : ofParts? n 0 with
  | none =>
    obtain ⟨-, hlarge⟩ := ofParts?_eq_none_iff.1 hparts
    have hzeros := (List.takeWhile_sublist (· == 0) (l := Nat.digits 10 n.toInt.natAbs)).length_le
    have hdigits : (Nat.digits 10 n.toInt.natAbs).length ≤ 19 := by
      have := n.le_toInt
      have := n.toInt_lt
      rw [Nat.digits_length_le_iff (by decide)]
      omega
    have hexponent : (0 : Int32).toInt = 0 := rfl
    omega
  | some d =>
    rw [ofParts?_eq_some_iff] at hparts
    exact ⟨d, by simpa using hparts⟩

end Decimal

namespace Datatypes

/-! ## Integers and decimals of the built-in table -/

section Numbers

variable {s datatype : String} {least greatest : Int} {v : Value}

theorem decode_builtin_eq_ok_iff_of_bounds (h : (datatype, least, greatest) ∈ integerBounds) :
    builtin.decode datatype s = .ok v ↔
      ∃ n, v = .integer n ∧ IntegerForm s.toList n.toInt ∧ least ≤ n.toInt ∧ n.toInt ≤ greatest :=
  (decode_eq_ok_iff_of_find? (find?_builtin_eq_some_iff.2 (.integer h))).trans
    Converter.decode_integerBetween_eq_ok_iff

theorem decode_builtin_eq_integer_iff (h : (datatype, least, greatest) ∈ integerBounds) {n : Int64} :
    builtin.decode datatype s = .ok (.integer n) ↔
      IntegerForm s.toList n.toInt ∧ least ≤ n.toInt ∧ n.toInt ≤ greatest := by
  rw [decode_builtin_eq_ok_iff_of_bounds h]
  constructor
  · rintro ⟨_, ⟨⟩, hread⟩
    exact hread
  · intro hread
    exact ⟨n, rfl, hread⟩

/-- An integer can be written under a datatype just if it lies within the bounds. -/
theorem exists_encode_builtin_iff_of_bounds (h : (datatype, least, greatest) ∈ integerBounds) :
    (∃ lexical, builtin.encode datatype v = .ok lexical) ↔
      ∃ n, v = .integer n ∧ least ≤ n.toInt ∧ n.toInt ≤ greatest := by
  simp only [encode_eq_ok_iff_of_find? (find?_builtin_eq_some_iff.2 (.integer h))]
  constructor
  · rintro ⟨lexical, -, hencode⟩
    cases v with
    | integer n =>
      obtain ⟨hrange, -⟩ := guard_eq_ok_iff.1 hencode
      exact ⟨n, rfl, by omega⟩
    | _ => cases hencode
  · rintro ⟨n, rfl, h0, h1⟩
    exact ⟨_, rfl, Converter.encode_integerBetween h0 h1⟩

/-- The bounds of `xsd:integer` are those of 64 bits. -/
theorem decode_xsdInteger_eq_integer_iff {n : Int64} :
    builtin.decode Xsd.integer s = .ok (.integer n) ↔ IntegerForm s.toList n.toInt := by
  have hbounds : (Xsd.integer, -2 ^ 63, 2 ^ 63 - 1) ∈ integerBounds := List.mem_cons_self ..
  have := n.toInt_lt
  rw [decode_builtin_eq_integer_iff hbounds]
  exact and_iff_left ⟨n.le_toInt, by omega⟩

theorem decode_nonNegativeInteger_eq_integer_iff {n : Int64} :
    builtin.decode Xsd.nonNegativeInteger s = .ok (.integer n) ↔ IntegerForm s.toList n.toInt ∧ 0 ≤ n.toInt := by
  have hbounds : (Xsd.nonNegativeInteger, 0, 2 ^ 63 - 1) ∈ integerBounds := by simp [integerBounds]
  have := n.toInt_lt
  rw [decode_builtin_eq_integer_iff hbounds]
  exact and_congr_right fun _ => and_iff_left (by omega)

theorem decode_xsdDecimal_eq_decimal_iff {d : Decimal} :
    builtin.decode Xsd.decimal s = .ok (.decimal d) ↔ Decimal.Denotes s.toList d.toRat := by
  rw [decode_eq_ok_iff_of_find? (find?_builtin_eq_some_iff.2 .decimal), ← Decimal.read_eq_ok_iff_denotes]
  simp only [Converter.decimal]
  cases Decimal.read s.toList <;> simp

/-- **Without a point, an integer is what a decimal is read as**, if it has 64 bits. -/
theorem decode_xsdInteger_iff_decode_xsdDecimal (hpoint : '.' ∉ s.toList) {n : Int64} :
    builtin.decode Xsd.integer s = .ok (.integer n) ↔
      ∃ d, builtin.decode Xsd.decimal s = .ok (.decimal d) ∧ d.toRat = n.toInt := by
  simp only [decode_xsdInteger_eq_integer_iff, decode_xsdDecimal_eq_decimal_iff,
    Decimal.denotes_iff_integerForm hpoint]
  constructor
  · intro hform
    obtain ⟨d, hd⟩ := Decimal.exists_toRat_eq_toInt n
    exact ⟨d, ⟨n.toInt, hform, hd⟩, hd⟩
  · rintro ⟨d, ⟨k, hform, hk⟩, hd⟩
    obtain rfl : k = n.toInt := by exact_mod_cast hk.symm.trans hd
    exact hform

/-- **The other integer datatypes** read what `xsd:integer` reads, as far as they can write it. -/
theorem decode_builtin_iff_of_bounds (h : (datatype, least, greatest) ∈ integerBounds) :
    builtin.decode datatype s = .ok v ↔
      builtin.decode Xsd.integer s = .ok v ∧ ∃ lexical, builtin.encode datatype v = .ok lexical := by
  rw [decode_builtin_eq_ok_iff_of_bounds h, exists_encode_builtin_iff_of_bounds h]
  constructor
  · rintro ⟨n, rfl, hform, hrange⟩
    exact ⟨decode_xsdInteger_eq_integer_iff.2 hform, n, rfl, hrange⟩
  · rintro ⟨hread, n, rfl, hrange⟩
    exact ⟨n, rfl, decode_xsdInteger_eq_integer_iff.1 hread, hrange⟩

end Numbers

/-- The integer datatypes that are derived from `xsd:integer`. -/
def derivedIntegers : List String :=
  [Xsd.long, Xsd.int, Xsd.short, Xsd.nonNegativeInteger, Xsd.positiveInteger]

/-- **Integers are read as decimals are.**  A text without a point is read under `xsd:integer` just if it is read under
`xsd:decimal` as an integer of 64 bits, and as the same number.  The derived datatypes read, of every text, what
`xsd:integer` reads there, as far as they can write it. -/
theorem decode_integer_agrees (s : String) :
    ('.' ∉ s.toList →
      (∀ n : Int64, builtin.decode Xsd.integer s = .ok (.integer n) ↔
        ∃ d, builtin.decode Xsd.decimal s = .ok (.decimal d) ∧ d.toRat = n.toInt) ∧
      ((∃ n, builtin.decode Xsd.integer s = .ok (.integer n)) ↔
        ∃ d, builtin.decode Xsd.decimal s = .ok (.decimal d) ∧ ∃ k : Int, d.toRat = k ∧ -2 ^ 63 ≤ k ∧ k < 2 ^ 63)) ∧
    ∀ datatype ∈ derivedIntegers, ∀ v, builtin.decode datatype s = .ok v ↔
      builtin.decode Xsd.integer s = .ok v ∧ ∃ lexical, builtin.encode datatype v = .ok lexical := by
  refine ⟨fun hpoint => ⟨fun n => decode_xsdInteger_iff_decode_xsdDecimal hpoint, ?_⟩, fun datatype hdatatype v => ?_⟩
  · simp only [decode_xsdInteger_iff_decode_xsdDecimal hpoint]
    constructor
    · rintro ⟨n, d, hread, hd⟩
      exact ⟨d, hread, n.toInt, hd, n.le_toInt, n.toInt_lt⟩
    · rintro ⟨d, hread, k, hd, h0, h1⟩
      obtain ⟨n, rfl⟩ : ∃ n : Int64, n.toInt = k := ⟨_, Int64.toInt_ofInt_of_le h0 h1⟩
      exact ⟨n, d, hread, hd⟩
  · have hdatatype : datatype ∈ integerBounds.tail.map (·.1) := hdatatype
    obtain ⟨⟨_, least, greatest⟩, hbounds, rfl⟩ := List.mem_map.1 hdatatype
    exact decode_builtin_iff_of_bounds (List.mem_of_mem_tail hbounds)

/-- A number near the least of 64 bits, two zeros of which go into the exponent of its decimal, is read alike under
`xsd:integer`, `xsd:decimal` and `xsd:long`, and is no positive integer. -/
theorem decode_integer_agrees_negative : '.' ∉ "-9223372036854775800".toList ∧
    (Xsd.long ∈ derivedIntegers ∧ Xsd.positiveInteger ∈ derivedIntegers) ∧
    builtin.decode Xsd.integer "-9223372036854775800" = .ok (.integer (-9223372036854775800)) ∧
    (∃ d, builtin.decode Xsd.decimal "-9223372036854775800" = .ok (.decimal d) ∧
      d.toRat = (-9223372036854775800 : Int64).toInt) ∧
    builtin.decode Xsd.long "-9223372036854775800" = .ok (.integer (-9223372036854775800)) ∧
    ∀ v, builtin.decode Xsd.positiveInteger "-9223372036854775800" ≠ .ok v := by
  have hpoint : '.' ∉ "-9223372036854775800".toList := by decide
  have hlong : Xsd.long ∈ derivedIntegers := by simp [derivedIntegers]
  have hpositive : Xsd.positiveInteger ∈ derivedIntegers := by simp [derivedIntegers]
  have hread : builtin.decode Xsd.integer "-9223372036854775800" = .ok (.integer (-9223372036854775800)) :=
    decode_xsdInteger_eq_integer_iff.2 (@IntegerForm.minus "9223372036854775800".toList (by decide))
  have hlongBounds : (Xsd.long, -2 ^ 63, 2 ^ 63 - 1) ∈ integerBounds := by simp [integerBounds]
  have hpositiveBounds : (Xsd.positiveInteger, 1, 2 ^ 63 - 1) ∈ integerBounds := by simp [integerBounds]
  obtain ⟨hagree, hderived⟩ := decode_integer_agrees "-9223372036854775800"
  obtain ⟨hdecimal, -⟩ := hagree hpoint
  refine ⟨hpoint, ⟨hlong, hpositive⟩, hread, (hdecimal _).1 hread, (hderived _ hlong _).2 ⟨hread, ?_⟩, fun v hv => ?_⟩
  · exact (exists_encode_builtin_iff_of_bounds hlongBounds).2 ⟨_, rfl, by decide, by decide⟩
  · obtain ⟨hv, hencode⟩ := (hderived _ hpositive v).1 hv
    rw [hread] at hv
    cases hv
    obtain ⟨_, ⟨⟩, hleast, -⟩ := (exists_encode_builtin_iff_of_bounds hpositiveBounds).1 hencode
    exact absurd hleast (by decide)

end Datatypes
end ShapeBinding
