import ShapeBinding.Proofs.Time.Calendar
import ShapeBinding.Proofs.Time.Grammar
/-!
# The parts of dates and times that are written

What is written of a date has a form of a date (`Time.civilForm_civilChars`), what is written of a time of day that of a
clock (`Time.clockForm_clockChars`), and what is written of an offset that of a zone (`Time.zoneForm_zoneChars`).
-/
namespace ShapeBinding
namespace Time

/-! ## Dates -/

/-- **What is written of a date is a form of it**, unless its year has more than nine digits. -/
theorem civilForm_civilChars {d : CivilDate} (hd : d.Valid) (hy : d.year.toInt.natAbs < 10 ^ 9) :
    CivilForm (civilChars d) d := by
  obtain ⟨hmonths, -, hdays⟩ := CivilDate.valid_iff.1 hd
  have hlength := CivilDate.daysInMonth_le d.year d.month
  have hday : d.day.toNat < 10 ^ 2 := by omega
  have hmonth : d.month.toNat < 10 ^ 2 := by omega
  have hyear : isNumeral (padded 4 d.year.toInt.natAbs) = true ∧ 4 ≤ (padded 4 d.year.toInt.natAbs).length ∧
      (padded 4 d.year.toInt.natAbs).length ≤ 9 :=
    ⟨isNumeral_padded .., length_padded_ge .., length_padded_le (by decide) (by decide) hy⟩
  have hfields := And.intro (TwoDigits.of_padded hmonth) (TwoDigits.of_padded hday)
  have hneg : d.year < 0 ↔ d.year.toInt < 0 := Int64.lt_iff_toInt_lt
  have hform : ∀ negative : Bool,
      d.year.toInt = (if negative then -(d.year.toInt.natAbs : Int) else d.year.toInt.natAbs) →
      CivilForm ((if negative then ['-'] else []) ++ (padded 4 d.year.toInt.natAbs ++
        '-' :: (padded 2 d.month.toNat ++ '-' :: padded 2 d.day.toNat))) d := fun negative hsign =>
    ⟨negative, _, _, _, rfl, hyear, hfields.1, hfields.2, by rwa [numeral_padded], (numeral_padded ..).symm,
      (numeral_padded ..).symm, hd⟩
  unfold civilChars
  by_cases h : d.year < 0
  · rw [if_pos h]
    exact hform true (Int.eq_neg_natAbs_of_nonpos (Int.le_of_lt (hneg.1 h)))
  · rw [if_neg h]
    exact hform false (Int.natAbs_of_nonneg (Int.not_lt.1 (mt hneg.2 h))).symm

/-- **What is written of a day number of 32 bits is a form of its date**, and the date has that day number. -/
theorem civilForm_ofDays {n : Int} (h0 : -2 ^ 31 ≤ n) (h1 : n < 2 ^ 31) :
    CivilForm (civilChars (CivilDate.ofDays (.ofInt n))) (CivilDate.ofDays (.ofInt n)) ∧
      (CivilDate.ofDays (.ofInt n)).dayNumber = n := by
  have hword : (Int64.ofInt n).toInt = n := Int64.toInt_ofInt_of_le (by omega) (by omega)
  have hlast := CivilDate.le_lastDay_iff.2 (show (Int64.ofInt n).toInt + 719468 < 2 ^ 63 by omega)
  have hyear : (CivilDate.ofDays (.ofInt n)).year.toInt.natAbs < 10 ^ 9 :=
    CivilDate.natAbs_year_ofDays_lt (by omega) (by omega)
  exact ⟨civilForm_civilChars (CivilDate.valid_ofDays hlast) hyear, (CivilDate.dayNumber_ofDays hlast).trans hword⟩

/-! ## Clocks -/

/-- The digits of a fraction without the zeros at the end. -/
def fractionChars (f : Nat) : List Char := ((padded 6 f).reverse.dropWhile (· == '0')).reverse

theorem isDigit_of_mem_fractionChars {f : Nat} {c : Char} (h : c ∈ fractionChars f) : c.isDigit = true := by
  rw [fractionChars, List.mem_reverse] at h
  exact isDigit_of_mem_padded (List.mem_reverse.1 ((List.dropWhile_sublist _).mem h))

/-- **What is written of a fraction is a form of it**, although its last zeros are left out. -/
theorem fractionForm_fractionChars {f : Nat} (hf : f ≠ 0) (hlt : f < 10 ^ 6) :
    FractionForm ('.' :: fractionChars f) f := by
  obtain ⟨k, hk⟩ := exists_eq_append_zeros (padded 6 f)
  change padded 6 f = fractionChars f ++ List.replicate k '0' at hk
  have hlength : (fractionChars f).length + k = 6 := by
    have := congrArg List.length hk
    rw [length_padded (by decide) hlt, List.length_append, List.length_replicate] at this
    exact this.symm
  have hvalue : f = numeral (fractionChars f) * 10 ^ k := by
    have := congrArg numeral hk
    rwa [numeral_padded, numeral_append_zeros] at this
  have hnumeral : isNumeral (fractionChars f) = true := by
    refine isNumeral_iff.2 ⟨fun hnil => hf ?_, fun _ => isDigit_of_mem_fractionChars⟩
    rw [hvalue, hnil]
    exact Nat.zero_mul _
  have hmicros : numeral (fractionChars f) * 10 ^ 6 / 10 ^ (fractionChars f).length = f := by
    conv_rhs => rw [hvalue]
    rw [← hlength, Nat.pow_add, Nat.mul_left_comm, Nat.mul_div_cancel_left _ (Nat.pow_pos (by decide))]
  have hform := FractionForm.present hnumeral
  rwa [hmicros] at hform

theorem clockChars_of_parts {h m s f : Nat} (hm : m < 60) (hs : s < 60) (hf : f < 10 ^ 6) :
    clockChars (h * microsPerHour + m * microsPerMinute + s * microsPerSecond + f) =
      padded 2 h ++ ':' :: (padded 2 m ++ ':' :: (padded 2 s ++ if f = 0 then [] else '.' :: fractionChars f)) := by
  have hhour : microsPerHour = 3600000000 := rfl
  have hminute : microsPerMinute = 60000000 := rfl
  have hsecond : microsPerSecond = 1000000 := rfl
  generalize hn : (h * microsPerHour + m * microsPerMinute + s * microsPerSecond + f : Int) = n
  rw [hhour, hminute, hsecond] at hn
  have hn0 : 0 ≤ n := by omega
  have h1 : n.tdiv microsPerHour = h := by
    rw [Int.tdiv_eq_ediv_of_nonneg hn0, hhour]
    omega
  have h2 : (n.tmod microsPerHour).tdiv microsPerMinute = m := by
    rw [Int.tmod_eq_emod_of_nonneg hn0, Int.tdiv_eq_ediv_of_nonneg (Int.emod_nonneg _ (by decide)), hhour, hminute]
    omega
  have h3 : (n.tmod microsPerMinute).tdiv microsPerSecond = s := by
    rw [Int.tmod_eq_emod_of_nonneg hn0, Int.tdiv_eq_ediv_of_nonneg (Int.emod_nonneg _ (by decide)), hminute, hsecond]
    omega
  have h4 : n.tmod microsPerSecond = f := by
    rw [Int.tmod_eq_emod_of_nonneg hn0, hsecond]
    omega
  have hfield : ∀ (w k : Nat), clockField w k = padded w k := fun w k => by
    rw [clockField, if_neg (by omega), Int.natAbs_natCast]
  simp only [clockChars, h1, h2, h3, h4, hfield, Int.natCast_eq_zero]
  split
  · rw [List.append_nil]
  · simp only [fractionChars, List.append_assoc, List.cons_append]

theorem exists_clock_parts {n : Int} (h0 : 0 ≤ n) (h1 : n < microsPerDay) : ∃ h m s f : Nat,
    h < 24 ∧ m < 60 ∧ s < 60 ∧ f < 10 ^ 6 ∧
      n = h * microsPerHour + m * microsPerMinute + s * microsPerSecond + f := by
  have hday : microsPerDay = 86400000000 := rfl
  have hhour : microsPerHour = 3600000000 := rfl
  have hminute : microsPerMinute = 60000000 := rfl
  have hsecond : microsPerSecond = 1000000 := rfl
  rw [hday] at h1
  refine ⟨(n / 3600000000).toNat, (n % 3600000000 / 60000000).toNat, (n % 60000000 / 1000000).toNat,
    (n % 1000000).toNat, by omega, by omega, by omega, by omega, ?_⟩
  rw [hhour, hminute, hsecond]
  omega

/-- **What is written of a time of day is a form of it.** -/
theorem clockForm_clockChars {n : Int} (h0 : 0 ≤ n) (h1 : n < microsPerDay) : ClockForm (clockChars n) n := by
  obtain ⟨h, m, s, f, hh, hm, hs, hf, rfl⟩ := exists_clock_parts h0 h1
  have hfield : ∀ {k}, k < 60 → TwoDigits (padded 2 k) := fun hk => .of_padded (by omega)
  have hfraction : FractionForm (if f = 0 then [] else '.' :: fractionChars f) f := by
    by_cases hzero : f = 0
    · rw [if_pos hzero, hzero]
      exact .absent
    · rw [if_neg hzero]
      exact fractionForm_fractionChars hzero hf
  rw [clockChars_of_parts hm hs hf]
  refine ⟨_, _, _, _, f, rfl, ⟨hfield (by omega), ?_⟩, ⟨hfield hm, ?_⟩, ⟨hfield hs, ?_⟩, hfraction, ?_⟩ <;>
    simp only [numeral_padded] <;> omega

/-! ## Zones -/

/-- An offset that a zone can show. -/
def OffsetInRange (offset : Option Int16) : Prop := ∀ m, offset = some m → m.toInt.natAbs ≤ maxOffset

theorem offsetInRange_none : OffsetInRange none := nofun

theorem OffsetInRange.ne_minValue {offset : Option Int16} (h : OffsetInRange offset) :
    offset ≠ some Int16.minValue := fun hleast => absurd (h _ hleast) (by decide)

theorem ZoneForm.offsetInRange {zone : List Char} {offset : Option Int16} (h : ZoneForm zone offset) :
    OffsetInRange offset := by
  cases h with
  | absent => exact offsetInRange_none
  | utc =>
    rintro m ⟨⟩
    exact Nat.zero_le _
  | @signed negative _ _ _ _ _ _ htotal hoffset =>
    rintro m ⟨⟩
    rw [hoffset]
    cases negative
    · rw [if_neg (by decide), Int.one_mul, Int.natAbs_natCast]
      exact htotal
    · rw [if_pos rfl, Int.neg_one_mul, Int.natAbs_neg, Int.natAbs_natCast]
      exact htotal

/-- **What is written of an offset is a form of it.** -/
theorem zoneForm_zoneChars {offset : Option Int16} (h : OffsetInRange offset) : ZoneForm (zoneChars offset) offset := by
  have hmax : maxOffset = 840 := rfl
  cases offset with
  | none => exact .absent
  | some m =>
    have hm := h m rfl
    by_cases hzero : m.toInt = 0
    · rw [zoneChars, if_pos hzero, show m = 0 from Int16.toInt_inj.1 hzero]
      exact .utc
    · have hhours := TwoDigits.of_padded (show m.toInt.natAbs / 60 < 10 ^ 2 by omega)
      have hminutes := TwoDigits.of_padded (show m.toInt.natAbs % 60 < 10 ^ 2 by omega)
      have hform := fun negative => @ZoneForm.signed negative _ _ m hhours hminutes
      simp only [numeral_padded] at hform
      simp only [zoneChars, if_neg hzero]
      by_cases hneg : m.toInt < 0
      · rw [if_pos hneg]
        exact hform true (by omega) (by omega) (by rw [if_pos rfl]; omega)
      · rw [if_neg hneg]
        exact hform false (by omega) (by omega) (by rw [if_neg (by decide)]; omega)

end Time
end ShapeBinding
