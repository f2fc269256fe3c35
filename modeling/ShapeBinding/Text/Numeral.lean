/-!
# Decimal numerals

Runs of ASCII digits as they are read and written in lexical forms.  Reading is by `numeral`, the value of a run of
digits, once `isNumeral` holds of it; writing is by `digits`, which has no leading zero, or by `padded`, which has at
least so many digits.  Reading undoes both writings (`numeral_digits`, `numeral_padded`).
-/
namespace ShapeBinding

/-- At least one character, and only ASCII digits. -/
def isNumeral (s : List Char) : Bool := !s.isEmpty && s.all Char.isDigit

/-- The value of a run of digits; leading zeros do not count. -/
def numeral (s : List Char) : Nat := Nat.ofDigitChars 10 s 0

def digits (n : Nat) : List Char := Nat.toDigits 10 n

/-- The digits of a number after as many zeros as it takes to reach the width. -/
def padded (width n : Nat) : List Char := (digits n).leftpad width '0'

def signedDigits (n : Int) : List Char := if n < 0 then '-' :: digits n.natAbs else digits n.natAbs

/-- Digits times a power of ten without an exponent mark: zeros are written out on either side, and a point stands only
before digits of a fraction. -/
def positional (ds : List Char) (exponent : Int) : List Char :=
  if 0 ≤ exponent then ds ++ List.replicate exponent.toNat '0'
  else
    let scale := exponent.natAbs
    if scale < ds.length then ds.take (ds.length - scale) ++ '.' :: ds.drop (ds.length - scale)
    else '0' :: '.' :: (List.replicate (scale - ds.length) '0' ++ ds)

theorem isNumeral_iff {s : List Char} : isNumeral s = true ↔ s ≠ [] ∧ ∀ c ∈ s, c.isDigit = true := by
  simp [isNumeral]

theorem isNumeral_digits (n : Nat) : isNumeral (digits n) = true := by
  rw [isNumeral_iff]
  exact ⟨List.ne_nil_of_length_pos Nat.length_toDigits_pos,
    fun _ hc => Nat.isDigit_of_mem_toDigits (by decide) (by decide) hc⟩

@[simp] theorem numeral_digits (n : Nat) : numeral (digits n) = n :=
  Nat.ofDigitChars_toDigits (by decide) (by decide)

theorem numeral_zeros_append (k : Nat) (s : List Char) : numeral (List.replicate k '0' ++ s) = numeral s := by
  induction k with
  | zero => rfl
  | succ k ih => simpa [numeral, Nat.ofDigitChars, List.replicate_succ] using ih

@[simp] theorem numeral_padded (width n : Nat) : numeral (padded width n) = n := by
  rw [padded, List.leftpad, numeral_zeros_append, numeral_digits]

/-- The sign of a number and what follows it; a plus sign may be left out. -/
def splitSign : List Char → Bool × List Char
  | '-' :: s => (true, s)
  | '+' :: s => (false, s)
  | s => (false, s)

/-! ## Cutting text

Lexical forms are cut at marks that are ASCII characters, at the first occurrence or at a number of UTF-8 bytes. -/

/-- What stands before and after the first occurrence of a mark. -/
def cutAt (mark : Char) : List Char → Option (List Char × List Char)
  | [] => none
  | c :: s => if c = mark then some ([], s) else (cutAt mark s).map fun p => (c :: p.1, p.2)

theorem cutAt_eq_some_iff {mark : Char} : ∀ {s a b : List Char},
    cutAt mark s = some (a, b) ↔ s = a ++ mark :: b ∧ mark ∉ a
  | [], a, b => by simp [cutAt]
  | c :: s, a, b => by
    unfold cutAt
    by_cases hc : c = mark
    · subst hc
      cases a with
      | nil => simp
      | cons d a => simp only [if_true, Option.some.injEq, Prod.mk.injEq, List.cons_append, List.cons.injEq]; grind
    · rw [if_neg hc]
      cases a with
      | nil => simp [hc]
      | cons d a =>
        have ih := @cutAt_eq_some_iff mark s a b
        simp only [Option.map_eq_some_iff, Prod.exists, Prod.mk.injEq, List.cons.injEq, List.cons_append,
          List.mem_cons, not_or]
        grind

theorem cutAt_eq_none_iff {mark : Char} : ∀ {s : List Char}, cutAt mark s = none ↔ mark ∉ s
  | [] => by simp [cutAt]
  | c :: s => by
    have ih := @cutAt_eq_none_iff mark s
    unfold cutAt
    by_cases hc : c = mark
    · simp [hc]
    · simp [hc, ih, Ne.symm hc]

/-- The number of bytes that the characters take in UTF-8. -/
def utf8Length : List Char → Nat
  | [] => 0
  | c :: s => c.utf8Size + utf8Length s

@[simp] theorem utf8Length_nil : utf8Length [] = 0 := rfl

@[simp] theorem utf8Length_cons (c : Char) (s : List Char) : utf8Length (c :: s) = c.utf8Size + utf8Length s := rfl

/-- The characters that make up the first `n` bytes, if a character ends there, and the rest. -/
def takeBytes (n : Nat) (s : List Char) : Option (List Char × List Char) :=
  match n, s with
  | 0, s => some ([], s)
  | _, [] => none
  | n, c :: s => if c.utf8Size ≤ n then (takeBytes (n - c.utf8Size) s).map fun p => (c :: p.1, p.2) else none

/-- The text cut before its last `n` bytes, if a character begins there. -/
def cutLastBytes (n : Nat) (s : List Char) : Option (List Char × List Char) :=
  if n ≤ utf8Length s then takeBytes (utf8Length s - n) s else none

end ShapeBinding
