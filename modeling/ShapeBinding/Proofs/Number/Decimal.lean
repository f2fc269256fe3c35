import ShapeBinding.Number.Decimal
import ShapeBinding.Proofs.Accepted
import ShapeBinding.Proofs.Text.Numeral
/-!
# Decimals are read as they were written

Normalizing finds the one decimal in normal form that a mantissa and an exponent stand for
(`Decimal.ofScaled_eq_ok_iff`), also where the zeros are divided away one after the other (`Decimal.ofParts?_eq`).  The
canonical form has the digits of the mantissa with the point where the exponent puts it (`Decimal.positional_spec`).
A text is read just if it has the parts of a number; the zeros at the ends of its digits are left out, which comes to
normalizing the number that all the digits are the numeral of (`Decimal.HasParts.read`).  So the canonical form of every
decimal is read as that decimal (`Decimal.read_chars`).
-/
namespace ShapeBinding

/-! ## Trailing zeros -/

theorem trailingZeros_of_not_dvd {n : Nat} (h : ¬ 10 ∣ n) : trailingZeros n = 0 := by
  rw [trailingZeros, if_neg]
  omega

theorem trailingZeros_mul_pow {n : Nat} (hn : n ≠ 0) : ∀ k, trailingZeros (n * 10 ^ k) = trailingZeros n + k
  | 0 => by rw [Nat.pow_zero, Nat.mul_one, Nat.add_zero]
  | k + 1 => by
    have hpos : 0 < n * 10 ^ k := Nat.mul_pos (by omega) (Nat.pow_pos (by decide))
    rw [Nat.pow_succ, ← Nat.mul_assoc, trailingZeros, if_pos ⟨by omega, by omega⟩, Nat.mul_div_cancel _ (by decide),
      trailingZeros_mul_pow hn k, Nat.add_assoc]

namespace Decimal

theorem ext_toInt {d d' : Decimal} (hm : d.mantissa.toInt = d'.mantissa.toInt)
    (he : d.exponent.toInt = d'.exponent.toInt) : d = d' := by
  obtain ⟨m, e, _⟩ := d
  obtain ⟨m', e', _⟩ := d'
  obtain rfl := Int64.toInt_inj.1 hm
  obtain rfl := Int32.toInt_inj.1 he
  rfl

theorem ofNormal_eq_ok_iff {m e : Int} {hm : ¬ (10 : Int) ∣ m} {d : Decimal} :
    ofNormal m e hm = .ok d ↔ d.mantissa.toInt = m ∧ d.exponent.toInt = e := by
  unfold ofNormal
  split
  · rename_i he
    rw [int32?_eq_none_iff] at he
    have h0 := d.exponent.le_toInt
    have h1 := d.exponent.toInt_lt
    simp only [reduceCtorEq, false_iff, not_and]
    omega
  · rename_i he hmant
    rw [int64?_eq_none_iff] at hmant
    have h0 := d.mantissa.le_toInt
    have h1 := d.mantissa.toInt_lt
    simp only [reduceCtorEq, false_iff, not_and]
    omega
  · rename_i exponent mantissa he hmant
    rw [int32?_eq_some_iff] at he
    rw [int64?_eq_some_iff] at hmant
    constructor
    · rintro ⟨⟩
      exact ⟨hmant, he⟩
    · rintro ⟨h, h'⟩
      exact congrArg Except.ok (ext_toInt (hmant.trans h.symm) (he.trans h'.symm))

/-- **What normalizing answers**: zero for zero, and else the mantissa without its trailing zeros, which go into the
exponent. -/
theorem ofScaled_eq_ok_iff {m e : Int} {d : Decimal} : ofScaled m e = .ok d ↔
    (m = 0 ∧ d = zero) ∨
      (m ≠ 0 ∧ d.mantissa.toInt = stripped m ∧ d.exponent.toInt = e + trailingZeros m.natAbs) := by
  unfold ofScaled
  by_cases hm : m = 0
  · rw [dif_pos hm]
    simp [hm, eq_comm]
  · rw [dif_neg hm, ofNormal_eq_ok_iff]
    simp only [hm, false_and, false_or, ne_eq, not_false_eq_true, true_and]

/-- **A power of ten may be taken from the mantissa to the exponent.** -/
theorem ofScaled_mul_pow (m : Int) (k : Nat) (e : Int) : ofScaled (m * 10 ^ k) e = ofScaled m (e + k) := by
  by_cases hm : m = 0
  · subst hm
    rw [Int.zero_mul, ofScaled, ofScaled, dif_pos rfl, dif_pos rfl]
  · have hpow : (10 : Int) ^ k ≠ 0 := Int.pow_ne_zero (by decide)
    have habs : (m * 10 ^ k).natAbs = m.natAbs * 10 ^ k := by rw [Int.natAbs_mul, Int.natAbs_pow]; rfl
    have hzeros : trailingZeros (m * 10 ^ k).natAbs = trailingZeros m.natAbs + k := by
      rw [habs, trailingZeros_mul_pow (Int.natAbs_ne_zero.2 hm)]
    have hstripped : stripped (m * 10 ^ k) = stripped m := by
      rw [stripped, hzeros, Nat.pow_add, Int.natCast_mul, Int.natCast_pow 10 k]
      exact Int.mul_ediv_mul_of_pos_left _ _ (Int.pow_pos (by decide))
    have hexponent : e + (trailingZeros (m * 10 ^ k).natAbs : Int) = e + k + trailingZeros m.natAbs := by omega
    simp only [ofScaled, Int.mul_ne_zero hm hpow, hm, hexponent, hstripped, dite_false]

/-- A mantissa that is no multiple of ten is left as it is. -/
theorem ofScaled_of_not_dvd {m : Int} (hm : ¬ (10 : Int) ∣ m) (e : Int) : ofScaled m e = ofNormal m e hm := by
  have hne : m ≠ 0 := fun h => hm (h ▸ Int.dvd_zero 10)
  have hzeros : trailingZeros m.natAbs = 0 := trailingZeros_of_not_dvd fun h => hm (Int.ofNat_dvd_left.2 h)
  have hstripped : stripped m = m := by rw [stripped, hzeros, Nat.pow_zero, Int.natCast_one, Int.ediv_one]
  rw [ofScaled, dif_neg hne]
  simp only [hstripped, hzeros, Int.natCast_zero, Int.add_zero]

/-- **A decimal is what its mantissa and its exponent stand for.** -/
theorem ofScaled_toInt (d : Decimal) : ofScaled d.mantissa.toInt d.exponent.toInt = .ok d := by
  have hnormal := d.normal
  by_cases hm : d.mantissa.toInt = 0
  · rw [if_pos hm] at hnormal
    exact ofScaled_eq_ok_iff.2 (.inl ⟨hm, ext_toInt hm hnormal⟩)
  · rw [if_neg hm] at hnormal
    rw [ofScaled_of_not_dvd hnormal]
    exact ofNormal_eq_ok_iff.2 ⟨rfl, rfl⟩

theorem ofScaled_eq_error_of_le {m e : Int} (hm : m ≠ 0) (he : 2 ^ 31 ≤ e) :
    ofScaled m e = .error .exponentOutOfRange := by
  have hnone : int32? (e + trailingZeros m.natAbs) = none := int32?_eq_none_iff.2 (.inr (by omega))
  rw [ofScaled, dif_neg hm, ofNormal]
  simp only [hnone]

/-- **Taking the zeros away one after the other** comes to what taking all of them at once does. -/
theorem normalize?_eq (m : Int64) (e : Int32) (hm : m.toInt ≠ 0) :
    normalize? m e hm = (ofScaled m.toInt e.toInt).toOption := by
  fun_induction normalize? m e hm with
  | case1 m e hm h hnone =>
    have hstep := ofScaled_mul_pow (m / 10).toInt 1 e.toInt
    rw [Int.pow_one, toInt_div_ten_mul h] at hstep
    have hne : (m / 10).toInt ≠ 0 := fun hzero => hm (by rw [← toInt_div_ten_mul h, hzero, Int.zero_mul])
    have hlower := e.le_toInt
    rw [hstep, ofScaled_eq_error_of_le hne]
    · rfl
    · have := int32?_eq_none_iff.1 hnone
      omega
  | case2 m e hm h e' hexponent ih =>
    have hstep := ofScaled_mul_pow (m / 10).toInt 1 e.toInt
    rw [Int.pow_one, toInt_div_ten_mul h] at hstep
    rw [ih, hstep, int32?_eq_some_iff.1 hexponent]
    rfl
  | case3 m e hm h =>
    have hdvd : ¬ (10 : Int) ∣ m.toInt := fun hdvd => h (Word.mod_eq_zero_iff.2 hdvd)
    have hofScaled := ofScaled_toInt ⟨m, e, by rwa [if_neg hm]⟩
    rw [hofScaled]
    rfl

theorem ofParts?_eq (m : Int64) (e : Int32) : ofParts? m e = (ofScaled m.toInt e.toInt).toOption := by
  by_cases hm : m.toInt = 0
  · rw [ofParts?, ofScaled, dif_pos hm, dif_pos hm]
    rfl
  · rw [ofParts?, dif_neg hm, normalize?_eq]

/-! ## Canonical forms -/

/-- **The digits of a positional form**: its parts before and after the point have the value of the digits that it was
made of, and after the point stand as many as the exponent says. -/
theorem positional_spec {ds : List Char} (hds : isNumeral ds = true) (e : Int) : ∃ whole fraction,
    (positional ds e = whole ∧ fraction = [] ∨ positional ds e = whole ++ '.' :: fraction) ∧ isNumeral whole = true ∧
      (∀ c ∈ fraction, c.isDigit = true) ∧ numeral (whole ++ fraction) = numeral ds * 10 ^ e.toNat ∧
      fraction.length = (-e).toNat := by
  obtain ⟨hne, hdigits⟩ := isNumeral_iff.1 hds
  have hzeros : ∀ k, ∀ c ∈ List.replicate k '0', c.isDigit = true := fun k c hc => by
    rw [(List.mem_replicate.1 hc).2]
    decide
  unfold positional
  by_cases he : 0 ≤ e
  · rw [if_pos he]
    refine ⟨_, [], .inl ⟨rfl, rfl⟩, isNumeral_iff.2 ⟨by simp [hne], fun c hc => ?_⟩, nofun, ?_, ?_⟩
    · exact (List.mem_append.1 hc).elim (hdigits c) (hzeros _ c)
    · rw [List.append_nil, numeral_append_zeros]
    · rw [List.length_nil]
      omega
  · rw [if_neg he]
    have htoNat : e.toNat = 0 := by omega
    simp only [htoNat, Nat.pow_zero, Nat.mul_one]
    by_cases hscale : e.natAbs < ds.length
    · rw [if_pos hscale]
      refine ⟨_, _, .inr rfl, isNumeral_iff.2 ⟨fun h => ?_, fun c hc => hdigits c (List.mem_of_mem_take hc)⟩,
        fun c hc => hdigits c (List.mem_of_mem_drop hc), by rw [List.take_append_drop], ?_⟩
      · have := congrArg List.length h
        rw [List.length_take, List.length_nil] at this
        omega
      · rw [List.length_drop]
        omega
    · rw [if_neg hscale]
      refine ⟨['0'], _, .inr rfl, by decide, fun c hc => (List.mem_append.1 hc).elim (hzeros _ c) (hdigits c), ?_, ?_⟩
      · exact (numeral_zeros_append 1 _).trans (numeral_zeros_append _ _)
      · rw [List.length_append, List.length_replicate]
        omega

/-! ## The texts of numbers -/

/-- **The parts of a number's text**: an optional sign, and at least one digit, with at most one point before, behind or
among the digits. -/
def HasParts (s : List Char) (negative : Bool) (whole fraction : List Char) : Prop :=
  ∃ sign body, s = sign ++ body ∧
    (sign = ['-'] ∧ negative = true ∨ (sign = ['+'] ∨ sign = []) ∧ negative = false) ∧
      (body = whole ∧ fraction = [] ∨ body = whole ++ '.' :: fraction) ∧
        whole ++ fraction ≠ [] ∧ ∀ c ∈ whole ++ fraction, c.isDigit = true

section Parts

variable {s whole fraction : List Char} {negative : Bool}

/-- A text has one list of parts: they are those that it is cut into. -/
theorem HasParts.cuts (h : HasParts s negative whole fraction) :
    ∃ body, splitSign s = (negative, body) ∧ (cutAt '.' body).getD (body, []) = (whole, fraction) := by
  obtain ⟨sign, body, rfl, hsign, hbody, hne, hdigits⟩ := h
  have hmark : ∀ {mark : Char}, mark.isDigit = false → mark ∉ whole ∧ mark ∉ fraction := fun hmark =>
    not_or.1 fun h => notMem_of_forall_isDigit hdigits hmark (List.mem_append.2 h)
  have hplain : ∀ {mark : Char}, mark.isDigit = false → mark ≠ '.' → mark ∉ body := fun {mark} hdigit hdot => by
    obtain ⟨hw, hf⟩ := hmark hdigit
    rcases hbody with ⟨rfl, -⟩ | rfl
    · exact hw
    · simp only [List.mem_append, List.mem_cons, hw, hf, hdot, or_self, not_false_eq_true]
  refine ⟨body, ?_, ?_⟩
  · rcases hsign with ⟨rfl, rfl⟩ | ⟨rfl | rfl, rfl⟩
    · rfl
    · rfl
    · exact splitSign_of_notMem (hplain (by decide) (by decide)) (hplain (by decide) (by decide))
  · rcases hbody with ⟨rfl, rfl⟩ | rfl
    · rw [cutAt_eq_none_iff.2 (hmark (by decide)).1, Option.getD_none]
    · rw [cutAt_append (hmark (by decide)).1, Option.getD_some]

/-- Digits without the zeros at both ends make the number up to the power of ten that the zeros at the end counted. -/
theorem numeral_eq_dropTrailingZeros (ds : List Char) : numeral ds =
    numeral (dropTrailingZeros (ds.dropWhile (· == '0'))) *
      10 ^ ((ds.dropWhile (· == '0')).length - (dropTrailingZeros (ds.dropWhile (· == '0'))).length) := by
  obtain ⟨j, hj⟩ := exists_eq_zeros_append ds
  obtain ⟨k, hk⟩ := exists_eq_append_zeros (ds.dropWhile (· == '0'))
  change ds.dropWhile (· == '0') = dropTrailingZeros _ ++ _ at hk
  have hlength : (ds.dropWhile (· == '0')).length - (dropTrailingZeros (ds.dropWhile (· == '0'))).length = k := by
    have := congrArg List.length hk
    rw [List.length_append, List.length_replicate] at this
    omega
  rw [hlength]
  conv_lhs => rw [hj, numeral_zeros_append, hk, numeral_append_zeros]

/-- **A text with the parts of a number is read by normalizing the number**: it makes no difference that the zeros at
both ends are left out before. -/
theorem HasParts.read (h : HasParts s negative whole fraction) : read s =
    ofScaled (if negative then -(numeral (whole ++ fraction) : Int) else numeral (whole ++ fraction))
      (-fraction.length) := by
  obtain ⟨body, hsign, hcut⟩ := h.cuts
  obtain ⟨-, -, -, -, -, hne, hdigits⟩ := h
  have hempty : (whole.isEmpty && fraction.isEmpty) = false := Bool.eq_false_iff.2 fun h => hne (by simpa using h)
  have hall : (whole ++ fraction).all Char.isDigit = true := List.all_eq_true.2 hdigits
  simp only [Decimal.read, hsign, hcut, hempty, hall, Bool.false_eq_true, if_false, Bool.not_true]
  rw [numeral_eq_dropTrailingZeros (whole ++ fraction)]
  generalize (whole ++ fraction).dropWhile (· == '0') = significant
  generalize significant.length - (dropTrailingZeros significant).length = trailing
  have hpow : ((10 ^ trailing : Nat) : Int) = 10 ^ trailing := by simp
  by_cases hnil : dropTrailingZeros significant = []
  · have hzero : numeral [] = 0 := rfl
    rw [hnil, hzero, Nat.zero_mul, Int.natCast_zero, Int.neg_zero, ite_self]
    rfl
  · have hsome : (dropTrailingZeros significant).isEmpty = false := by simpa using hnil
    have hscaled : ∀ n : Int, ofScaled n ((trailing : Int) - fraction.length) =
        ofScaled (n * 10 ^ trailing) (-fraction.length) := fun n => by
      rw [ofScaled_mul_pow]
      congr 1
      omega
    rw [hsome, if_neg (by decide), hscaled, Int.natCast_mul, hpow]
    congr 1
    cases negative
    · rfl
    · exact Int.neg_mul ..

/-- Every text that is read has the parts of a number. -/
theorem exists_hasParts_of_read {d : Decimal} (h : Decimal.read s = .ok d) :
    ∃ negative whole fraction, HasParts s negative whole fraction := by
  unfold Decimal.read at h
  obtain ⟨negative, body, hsign⟩ : ∃ negative body, splitSign s = (negative, body) := ⟨_, _, rfl⟩
  obtain ⟨whole, fraction, hcut⟩ : ∃ whole fraction, (cutAt '.' body).getD (body, []) = (whole, fraction) := ⟨_, _, rfl⟩
  simp only [hsign, hcut] at h
  obtain ⟨hempty, h⟩ := guard_eq_ok_iff.1 h
  obtain ⟨hall, -⟩ := guard_eq_ok_iff.1 h
  obtain ⟨sign, hs, hform⟩ := exists_append_of_splitSign hsign
  refine ⟨negative, whole, fraction, sign, body, hs, hform, ?_, ?_, ?_⟩
  · cases hdot : cutAt '.' body with
    | none =>
      rw [hdot] at hcut
      cases hcut
      exact .inl ⟨rfl, rfl⟩
    | some parts =>
      rw [hdot] at hcut
      cases hcut
      exact .inr (cutAt_eq_some_iff.1 hdot).1
  · intro hnil
    rw [List.append_eq_nil_iff] at hnil
    exact hempty (by rw [hnil.1, hnil.2]; rfl)
  · rw [Bool.not_eq_true, Bool.not_eq_false'] at hall
    exact List.all_eq_true.1 hall

end Parts

/-- **The canonical form of a decimal is read as the decimal.** -/
theorem read_chars (d : Decimal) : read d.chars = .ok d := by
  obtain ⟨whole, fraction, hbody, hwhole, hfraction, hvalue, hlength⟩ :=
    positional_spec (isNumeral_digits d.mantissa.toInt.natAbs) d.exponent.toInt
  obtain ⟨hne, hdigits⟩ := isNumeral_iff.1 hwhole
  have hparts : HasParts d.chars (decide (d.mantissa.toInt < 0)) whole fraction := by
    refine ⟨if d.mantissa.toInt < 0 then ['-'] else [], _, ?_, ?_, hbody, fun h => hne (List.append_eq_nil_iff.1 h).1,
      fun c hc => (List.mem_append.1 hc).elim (hdigits c) (hfraction c)⟩
    · rw [chars]
      split <;> rfl
    · by_cases hm : d.mantissa.toInt < 0 <;> simp [hm]
  have hpow : ((10 ^ d.exponent.toInt.toNat : Nat) : Int) = 10 ^ d.exponent.toInt.toNat := by simp
  have hsigned : (if decide (d.mantissa.toInt < 0) = true then
      -((d.mantissa.toInt.natAbs * 10 ^ d.exponent.toInt.toNat : Nat) : Int)
      else (d.mantissa.toInt.natAbs * 10 ^ d.exponent.toInt.toNat : Nat)) =
      d.mantissa.toInt * 10 ^ d.exponent.toInt.toNat := by
    rw [Int.natCast_mul, hpow]
    by_cases hm : d.mantissa.toInt < 0
    · rw [decide_eq_true hm, if_pos rfl, ← Int.neg_mul]
      congr 1
      omega
    · rw [decide_eq_false hm, if_neg (by decide)]
      congr 1
      omega
  rw [hparts.read, hlength, hvalue, numeral_digits, hsigned, ofScaled_mul_pow]
  have hexponent : -((-d.exponent.toInt).toNat : Int) + d.exponent.toInt.toNat = d.exponent.toInt := by omega
  rw [hexponent, ofScaled_toInt]

end Decimal
end ShapeBinding
