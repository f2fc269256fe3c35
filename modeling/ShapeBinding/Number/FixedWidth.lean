/-!
# Integers of a fixed width

An integer is held in 64 or 32 bits only if it lies in the two's-complement range.  Where a range is checked, the test
is exact: it answers with a word just when the word's value is the integer given.  Where it is not checked, words are
added, subtracted and multiplied modulo a power of two.  The word of an exact result is the result of the operations on
words, and it has that value if the value is in range.
-/
namespace ShapeBinding

-- a power of numbers is the same term in every module, also where a monoid's powers are in scope
attribute [instance (1100), default_instance (10001)] instPowNat

def int64? (n : Int) : Option Int64 := if -2 ^ 63 ≤ n ∧ n < 2 ^ 63 then some (Int64.ofInt n) else none

def int32? (n : Int) : Option Int32 := if -2 ^ 31 ≤ n ∧ n < 2 ^ 31 then some (Int32.ofInt n) else none

def uint32? (n : Nat) : Option UInt32 := if n < 2 ^ 32 then some (UInt32.ofNat n) else none

@[simp] theorem int64?_eq_some_iff {n : Int} {w : Int64} : int64? n = some w ↔ w.toInt = n := by
  unfold int64?
  constructor
  · split
    · rename_i h
      rintro ⟨⟩
      exact Int64.toInt_ofInt_of_le h.1 h.2
    · rintro ⟨⟩
  · rintro rfl
    rw [if_pos ⟨w.le_toInt, w.toInt_lt⟩, Int64.ofInt_toInt]

@[simp] theorem int64?_eq_none_iff {n : Int} : int64? n = none ↔ n < -2 ^ 63 ∨ 2 ^ 63 ≤ n := by
  unfold int64?
  split <;> simp <;> omega

@[simp] theorem int32?_eq_some_iff {n : Int} {w : Int32} : int32? n = some w ↔ w.toInt = n := by
  unfold int32?
  constructor
  · split
    · rename_i h
      rintro ⟨⟩
      exact Int32.toInt_ofInt_of_le h.1 h.2
    · rintro ⟨⟩
  · rintro rfl
    rw [if_pos ⟨w.le_toInt, w.toInt_lt⟩, Int32.ofInt_toInt]

@[simp] theorem int32?_eq_none_iff {n : Int} : int32? n = none ↔ n < -2 ^ 31 ∨ 2 ^ 31 ≤ n := by
  unfold int32?
  split <;> simp <;> omega

@[simp] theorem uint32?_eq_some_iff {n : Nat} {w : UInt32} : uint32? n = some w ↔ w.toNat = n := by
  unfold uint32?
  constructor
  · split
    · rename_i h
      rintro ⟨⟩
      exact UInt32.toNat_ofNat_of_lt' h
    · rintro ⟨⟩
  · rintro rfl
    rw [if_pos w.toNat_lt, UInt32.ofNat_toNat]

/-! ## Words without a check -/

namespace Word

/-- The quotient whose remainder is not negative. -/
def ediv (a b : Int64) : Int64 := .ofInt (a.toInt / b.toInt)

/-- The remainder that is not negative. -/
def emod (a b : Int64) : Int64 := .ofInt (a.toInt % b.toInt)

/-- The last 32 bits, without a sign. -/
def low (a : Int64) : UInt32 := .ofInt a.toInt

def ofUInt32 (n : UInt32) : Int64 := .ofNat n.toNat

theorem toInt_add {a b : Int64} {n : Int} (h : a.toInt + b.toInt = n) (h0 : -2 ^ 63 ≤ n) (h1 : n < 2 ^ 63) :
    (a + b).toInt = n := by
  rw [← Int64.ofInt_toInt a, ← Int64.ofInt_toInt b, ← Int64.ofInt_add, h, Int64.toInt_ofInt_of_le h0 h1]

theorem toInt_sub {a b : Int64} {n : Int} (h : a.toInt - b.toInt = n) (h0 : -2 ^ 63 ≤ n) (h1 : n < 2 ^ 63) :
    (a - b).toInt = n := by
  rw [← Int64.ofInt_toInt a, ← Int64.ofInt_toInt b, ← Int64.ofInt_sub, h, Int64.toInt_ofInt_of_le h0 h1]

theorem ofInt_ediv {a b : Int} (ha : 0 ≤ a ∧ a < 2 ^ 63) (hb : 0 ≤ b ∧ b < 2 ^ 63) :
    Int64.ofInt (a / b) = Int64.ofInt a / Int64.ofInt b := by
  have hleast : Int64.minValue.toInt ≤ 0 := by decide
  have hgreatest := Int64.toInt_maxValue_add_one
  rw [← Int.tdiv_eq_ediv_of_nonneg ha.1]
  exact Int64.ofInt_tdiv (by omega) (by omega) (by omega) (by omega)

theorem ofInt_emod {a b : Int} (ha : 0 ≤ a ∧ a < 2 ^ 63) (hb : 0 ≤ b ∧ b < 2 ^ 63) :
    Int64.ofInt (a % b) = Int64.ofInt a % Int64.ofInt b := by
  have hleast : Int64.minValue.toInt ≤ 0 := by decide
  have hgreatest := Int64.toInt_maxValue_add_one
  rw [← Int.tmod_eq_emod_of_nonneg ha.1]
  exact Int64.ofInt_tmod (by omega) (by omega) (by omega) (by omega)

/-- The absolute value is exact, save that of the least word, which is the least word. -/
theorem toInt_abs {m : Int16} (h : m ≠ Int16.minValue) : m.abs.toInt = m.toInt.natAbs := by
  have hne : m.toBitVec ≠ BitVec.intMin 16 := fun heq => h (Int16.toBitVec_inj.1 heq)
  rw [← Int16.toInt_toBitVec, Int16.toBitVec_abs, BitVec.toInt_abs_eq_natAbs_of_ne_intMin hne, Int16.toInt_toBitVec]

theorem mod_eq_zero_iff {a b : Int64} : a % b = 0 ↔ b.toInt ∣ a.toInt := by
  rw [← Int64.toInt_inj, Int64.toInt_mod, Int64.toInt_zero, Int.dvd_iff_tmod_eq_zero]

theorem toNat_low {n : Int} (h0 : 0 ≤ n) (h1 : n < 2 ^ 32) : ((low (.ofInt n)).toNat : Int) = n := by
  have hword : (Int64.ofInt n).toInt = n := Int64.toInt_ofInt_of_le (by omega) (by omega)
  have hnat : n.toNat < 2 ^ 32 := by omega
  rw [low, hword, UInt32.ofInt, Int.emod_eq_of_lt h0 h1, UInt32.toNat_ofNat_of_lt' hnat, Int.toNat_of_nonneg h0]

end Word

end ShapeBinding
