import Mathlib.Data.List.TakeWhile
import ShapeBinding.Number.FixedWidth
import ShapeBinding.Text.Numeral
/-!
# Numerals, integers and cuts

What is written with a width has that width if the number is small enough (`length_padded`), an integer is written as
one of its forms (`integerForm_signedDigits`), and the value of two runs of digits is that of their join
(`numeral_append`).  A text that was put together is cut where it was put together: at a mark that does not occur before
(`cutAt_append`), after the bytes of the first part (`takeBytes_append`) or before those of the last
(`cutLastBytes_append`).
-/
namespace ShapeBinding

/-! ## Digits -/

theorem isDigit_of_mem_digits {n : Nat} {c : Char} (h : c ∈ digits n) : c.isDigit = true :=
  Nat.isDigit_of_mem_toDigits (by decide) (by decide) h

theorem isDigit_of_mem_padded {width n : Nat} {c : Char} (h : c ∈ padded width n) : c.isDigit = true := by
  rw [padded, List.leftpad, List.mem_append] at h
  rcases h with h | h
  · rw [(List.mem_replicate.1 h).2]
    decide
  · exact isDigit_of_mem_digits h

theorem isNumeral_padded (width n : Nat) : isNumeral (padded width n) = true := by
  rw [isNumeral_iff]
  refine ⟨fun h => ?_, fun _ => isDigit_of_mem_padded⟩
  rw [padded, List.leftpad, List.append_eq_nil_iff] at h
  exact Nat.toDigits_ne_nil h.2

theorem length_digits_le {n k : Nat} (hk : 0 < k) (h : n < 10 ^ k) : (digits n).length ≤ k :=
  (Nat.length_toDigits_le_iff (by decide) hk).2 h

theorem length_padded {width n : Nat} (hw : 0 < width) (h : n < 10 ^ width) : (padded width n).length = width := by
  rw [padded, List.length_leftpad]
  exact Nat.max_eq_left (length_digits_le hw h)

theorem length_padded_ge (width n : Nat) : width ≤ (padded width n).length := by
  rw [padded, List.length_leftpad]
  exact Nat.le_max_left ..

theorem length_padded_le {width n k : Nat} (hw : width ≤ k) (hk : 0 < k) (h : n < 10 ^ k) :
    (padded width n).length ≤ k := by
  rw [padded, List.length_leftpad]
  exact Nat.max_le.2 ⟨hw, length_digits_le hk h⟩

theorem notMem_of_forall_isDigit {s : List Char} (h : ∀ c ∈ s, c.isDigit = true) {mark : Char}
    (hmark : mark.isDigit = false) : mark ∉ s := fun hmem => by
  rw [h mark hmem] at hmark
  cases hmark

theorem notMem_padded {mark : Char} (hmark : mark.isDigit = false) (width n : Nat) : mark ∉ padded width n :=
  notMem_of_forall_isDigit (fun _ => isDigit_of_mem_padded) hmark

theorem splitSign_of_notMem {s : List Char} (hminus : '-' ∉ s) (hplus : '+' ∉ s) : splitSign s = (false, s) := by
  unfold splitSign
  split
  · exact absurd (List.mem_cons_self ..) hminus
  · exact absurd (List.mem_cons_self ..) hplus
  · rfl

theorem splitSign_of_isNumeral {s : List Char} (h : isNumeral s = true) : splitSign s = (false, s) :=
  splitSign_of_notMem (notMem_of_forall_isDigit (isNumeral_iff.1 h).2 (by decide))
    (notMem_of_forall_isDigit (isNumeral_iff.1 h).2 (by decide))

theorem exists_append_of_splitSign {s body : List Char} {negative : Bool} (h : splitSign s = (negative, body)) :
    ∃ sign, s = sign ++ body ∧
      (sign = ['-'] ∧ negative = true ∨ (sign = ['+'] ∨ sign = []) ∧ negative = false) := by
  unfold splitSign at h
  split at h <;> cases h
  · exact ⟨['-'], rfl, .inl ⟨rfl, rfl⟩⟩
  · exact ⟨['+'], rfl, .inr ⟨.inl rfl, rfl⟩⟩
  · exact ⟨[], rfl, .inr ⟨.inr rfl, rfl⟩⟩

/-! ## Integers -/

/-- **The forms of an integer**: at least one digit, after an optional sign.  Zeros may stand before the other digits,
and zero may have either sign. -/
inductive IntegerForm : List Char → Int → Prop
  | unsigned {ds : List Char} (h : isNumeral ds = true) : IntegerForm ds (numeral ds)
  | plus {ds : List Char} (h : isNumeral ds = true) : IntegerForm ('+' :: ds) (numeral ds)
  | minus {ds : List Char} (h : isNumeral ds = true) : IntegerForm ('-' :: ds) (-numeral ds)

theorem integerForm_iff_of_splitSign {s body : List Char} {negative : Bool} {n : Int}
    (h : splitSign s = (negative, body)) :
    IntegerForm s n ↔ isNumeral body = true ∧ n = if negative then -(numeral body : Int) else numeral body := by
  constructor
  · intro hform
    cases hform with
    | unsigned hdigits =>
      rw [splitSign_of_isNumeral hdigits] at h
      cases h
      exact ⟨hdigits, rfl⟩
    | plus hdigits =>
      cases h
      exact ⟨hdigits, rfl⟩
    | minus hdigits =>
      cases h
      exact ⟨hdigits, rfl⟩
  · rintro ⟨hdigits, rfl⟩
    unfold splitSign at h
    split at h <;> cases h
    · exact .minus hdigits
    · exact .plus hdigits
    · exact .unsigned hdigits

theorem integerForm_signedDigits (n : Int) : IntegerForm (signedDigits n) n := by
  unfold signedDigits
  split
  · have hform := IntegerForm.minus (isNumeral_digits n.natAbs)
    rwa [numeral_digits, Int.ofNat_natAbs_of_nonpos (by omega), Int.neg_neg] at hform
  · have hform := IntegerForm.unsigned (isNumeral_digits n.natAbs)
    rwa [numeral_digits, Int.natAbs_of_nonneg (by omega)] at hform

/-! ## Joined digits -/

theorem numeral_append_zeros (s : List Char) (k : Nat) : numeral (s ++ List.replicate k '0') = numeral s * 10 ^ k := by
  rw [numeral, Nat.ofDigitChars_append, Nat.ofDigitChars_replicate_zero, Nat.mul_comm]
  rfl

/-- The value of two runs of digits, the second in the lower places. -/
theorem numeral_append (s t : List Char) : numeral (s ++ t) = numeral s * 10 ^ t.length + numeral t := by
  rw [numeral, Nat.ofDigitChars_append, Nat.ofDigitChars_eq_ofDigitChars_zero, Nat.mul_comm]
  rfl

theorem numeral_cons (c : Char) (s : List Char) :
    numeral (c :: s) = 10 ^ s.length * (c.toNat - '0'.toNat) + numeral s := by
  rw [numeral, Nat.ofDigitChars_cons, Nat.ofDigitChars_eq_ofDigitChars_zero, Nat.mul_zero, Nat.zero_add, numeral]

theorem numeral_lt : ∀ {s : List Char}, (∀ c ∈ s, c.isDigit = true) → numeral s < 10 ^ s.length
  | [], _ => Nat.one_pos
  | c :: s, h => by
    rw [List.forall_mem_cons] at h
    have hdigit : c.toNat ≤ 57 := by
      have := h.1
      simp only [Char.isDigit, Bool.and_eq_true, decide_eq_true_eq] at this
      exact UInt32.le_iff_toNat_le.1 this.2
    have hc : c.toNat - '0'.toNat ≤ 9 := Nat.sub_le_iff_le_add.2 hdigit
    calc numeral (c :: s) = 10 ^ s.length * (c.toNat - '0'.toNat) + numeral s := numeral_cons c s
      _ < 10 ^ s.length * 9 + 10 ^ s.length := Nat.add_lt_add_of_le_of_lt (Nat.mul_le_mul_left _ hc) (numeral_lt h.2)
      _ = 10 ^ (c :: s).length := by rw [List.length_cons, Nat.pow_succ, ← Nat.mul_succ]

/-- The digits in the higher places are what is left of the value when the lower places are cut off. -/
theorem numeral_append_div {s t : List Char} (h : ∀ c ∈ t, c.isDigit = true) :
    numeral (s ++ t) / 10 ^ t.length = numeral s := by
  rw [numeral_append, Nat.mul_comm, Nat.mul_add_div (Nat.pow_pos (by decide)), Nat.div_eq_of_lt (numeral_lt h),
    Nat.add_zero]

/-! ## Zeros at the ends -/

theorem exists_eq_zeros_append (s : List Char) : ∃ k, s = List.replicate k '0' ++ s.dropWhile (· == '0') := by
  have hzeros : s.takeWhile (· == '0') = List.replicate (s.takeWhile (· == '0')).length '0' :=
    List.eq_replicate_of_mem fun c hc => by simpa using List.mem_takeWhile_imp hc
  refine ⟨(s.takeWhile (· == '0')).length, ?_⟩
  rw [← hzeros, List.takeWhile_append_dropWhile]

theorem exists_eq_append_zeros (s : List Char) :
    ∃ k, s = (s.reverse.dropWhile (· == '0')).reverse ++ List.replicate k '0' := by
  obtain ⟨k, hk⟩ := exists_eq_zeros_append s.reverse
  have hs := congrArg List.reverse hk
  rw [List.reverse_reverse, List.reverse_append, List.reverse_replicate] at hs
  exact ⟨k, hs⟩

/-! ## Bytes -/

theorem utf8Size_of_isDigit {c : Char} (h : c.isDigit = true) : c.utf8Size = 1 := by
  have hle : c.val.toNat ≤ 57 := by
    simp only [Char.isDigit, Bool.and_eq_true, decide_eq_true_eq] at h
    exact UInt32.le_iff_toNat_le.1 h.2
  have : c.val ≤ 127 := UInt32.le_iff_toNat_le.2 (Nat.le_trans hle (by decide))
  simp [Char.utf8Size, this]

theorem utf8Length_append : ∀ s t : List Char, utf8Length (s ++ t) = utf8Length s + utf8Length t
  | [], t => by rw [List.nil_append, utf8Length_nil, Nat.zero_add]
  | c :: s, t => by rw [List.cons_append, utf8Length_cons, utf8Length_cons, utf8Length_append s t, Nat.add_assoc]

theorem utf8Length_of_forall_isDigit : ∀ {s : List Char}, (∀ c ∈ s, c.isDigit = true) → utf8Length s = s.length
  | [], _ => rfl
  | c :: s, h => by
    rw [List.forall_mem_cons] at h
    rw [utf8Length_cons, utf8Size_of_isDigit h.1, utf8Length_of_forall_isDigit h.2, List.length_cons, Nat.add_comm]

theorem length_le_utf8Length : ∀ s : List Char, s.length ≤ utf8Length s
  | [] => Nat.le_refl 0
  | c :: s => by
    have := length_le_utf8Length s
    have := c.utf8Size_pos
    rw [utf8Length_cons, List.length_cons]
    omega

/-! ## Cuts -/

theorem cutAt_append {mark : Char} {a : List Char} (h : mark ∉ a) (b : List Char) :
    cutAt mark (a ++ mark :: b) = some (a, b) := cutAt_eq_some_iff.2 ⟨rfl, h⟩

theorem takeBytes_append : ∀ a b : List Char, takeBytes (utf8Length a) (a ++ b) = some (a, b)
  | [], b => by
    rw [utf8Length_nil, List.nil_append]
    cases b <;> rfl
  | c :: a, b => by
    have hpos := c.utf8Size_pos
    obtain ⟨k, hk⟩ : ∃ k, utf8Length (c :: a) = k + 1 := ⟨utf8Length (c :: a) - 1, by rw [utf8Length_cons]; omega⟩
    rw [hk, List.cons_append, takeBytes, ← hk]
    · rw [utf8Length_cons, if_pos (Nat.le_add_right ..), Nat.add_sub_cancel_left, takeBytes_append a b]
      rfl
    · omega

theorem eq_append_of_takeBytes : ∀ {s : List Char} {n : Nat} {a b : List Char},
    takeBytes n s = some (a, b) → s = a ++ b ∧ utf8Length a = n
  | s, 0, a, b, h => by
    cases s <;> cases h <;> exact ⟨rfl, rfl⟩
  | [], n + 1, a, b, h => by cases h
  | c :: s, n + 1, a, b, h => by
    rw [takeBytes] at h
    · split at h
      · rename_i hle
        obtain ⟨⟨a', b'⟩, hrest, heq⟩ := Option.map_eq_some_iff.1 h
        cases heq
        obtain ⟨rfl, hlen⟩ := eq_append_of_takeBytes hrest
        exact ⟨rfl, by rw [utf8Length_cons, hlen]; omega⟩
      · cases h
    · omega

theorem cutLastBytes_append (a b : List Char) : cutLastBytes (utf8Length b) (a ++ b) = some (a, b) := by
  rw [cutLastBytes, utf8Length_append, if_pos (Nat.le_add_left ..), Nat.add_sub_cancel, takeBytes_append]

theorem eq_append_of_cutLastBytes {s a b : List Char} {n : Nat} (h : cutLastBytes n s = some (a, b)) :
    s = a ++ b ∧ utf8Length b = n := by
  unfold cutLastBytes at h
  split at h
  · rename_i hle
    obtain ⟨rfl, hlen⟩ := eq_append_of_takeBytes h
    rw [utf8Length_append] at hlen hle
    exact ⟨rfl, by omega⟩
  · cases h

end ShapeBinding
