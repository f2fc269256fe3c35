import ShapeBinding.Time.Calendar
/-!
# Day numbers and dates

A day of an era is in a year of four hundred and on a day of that year (`CivilDate.YearPlace.spec`), and a day of a year
that begins in March is in a month and on a day of that month (`CivilDate.monthAndDay_spec`).  The words that
`CivilDate.ofDays` computes are those of the exact results, so the date of a day number stands at the place of the day
(`CivilDate.exists_place_ofDays`), unless the shift to 0000-03-01 leaves the 64 bits.  A date at a place exists
(`CivilDate.IsAt.valid`), and its exact count of days is that of the place (`CivilDate.IsAt.dayNumber`).
-/
namespace ShapeBinding
namespace CivilDate

/-! ## Years of an era -/

/-- The place of a day of an era among the centuries, their cycles of four years and the years of a cycle.  Only the
last of each may be a day longer. -/
structure YearPlace (dayOfEra century cycle year day : Int) : Prop where
  century_range : 0 ≤ century ∧ century ≤ 3
  cycle_range : 0 ≤ cycle ∧ cycle ≤ 24
  year_range : 0 ≤ year ∧ year ≤ 3
  day_range : 0 ≤ day ∧ day ≤ 365
  count : dayOfEra = century * 36524 + cycle * 1461 + year * 365 + day
  last : day = 365 → year = 3 ∧ (cycle = 24 → century = 3)

theorem exists_yearPlace {n : Int} (h0 : 0 ≤ n) (h1 : n < 146097) :
    ∃ century cycle year day, YearPlace n century cycle year day := by
  obtain ⟨century, hcentury⟩ : ∃ century, min 3 (n / 36524) = century := ⟨_, rfl⟩
  have hc : 0 ≤ century ∧ century ≤ 3 ∧ century * 36524 ≤ n ∧ n ≤ century * 36524 + 36524 ∧
      (n = century * 36524 + 36524 → century = 3) := by omega
  clear hcentury
  obtain ⟨m, hm⟩ : ∃ m, n - century * 36524 = m := ⟨_, rfl⟩
  obtain ⟨cycle, hcycle⟩ : ∃ cycle, m / 1461 = cycle := ⟨_, rfl⟩
  have hk : 0 ≤ cycle ∧ cycle ≤ 24 ∧ cycle * 1461 ≤ m ∧ m < cycle * 1461 + 1461 := by omega
  clear hcycle
  obtain ⟨r, hr⟩ : ∃ r, m - cycle * 1461 = r := ⟨_, rfl⟩
  obtain ⟨year, hyear⟩ : ∃ year, min 3 (r / 365) = year := ⟨_, rfl⟩
  have hy : 0 ≤ year ∧ year ≤ 3 ∧ year * 365 ≤ r ∧ r ≤ year * 365 + 365 ∧ (r = year * 365 + 365 → year = 3) := by
    omega
  clear hyear
  refine ⟨century, cycle, year, r - year * 365, by omega, by omega, by omega, by omega, by omega, fun hday => ?_⟩
  -- the last cycle of a century is complete in the last century of the era only
  exact ⟨by omega, fun h24 => by omega⟩

/-- **The year of a day of an era in one division**: the leap days that have passed are taken off the days. -/
theorem YearPlace.division_eq {n century cycle year day : Int} (h : YearPlace n century cycle year day) :
    (n - n / 1460 + n / 36524 - n / 146096) / 365 = century * 100 + cycle * 4 + year := by
  obtain ⟨hcentury, hcycle, hyear, hday, hn, hlast⟩ := h
  obtain ⟨r, hr⟩ : ∃ r, year * 365 + day = r := ⟨_, rfl⟩
  have hyears : 0 ≤ r ∧ r ≤ 1460 ∧ year * 365 ≤ r ∧ r ≤ year * 365 + 365 := by omega
  have hleap : r = year * 365 + 365 → year = 3 := fun h => (hlast (by omega)).1
  have hfull : cycle = 24 → r = 1460 → century = 3 := fun h24 h => (hlast (by omega)).2 h24
  clear hlast
  have hcenturies : n / 36524 - n / 146096 = century := by omega
  -- a cycle has one day more than 1460, so the quotient runs ahead of the cycles by at most one
  have hpassed : n / 1460 = 25 * century + cycle + (24 * century + cycle + r) / 1460 := by omega
  clear hfull
  omega

/-- **The day of the year** is what the years before it leave over: only a leap year has a last day, which is the 29th
of February of the civil year that follows. -/
theorem YearPlace.spec {n century cycle year day y : Int} (h : YearPlace n century cycle year day)
    (hy : century * 100 + cycle * 4 + year = y) : (0 ≤ y ∧ y < 400) ∧ n - (365 * y + y / 4 - y / 100) = day ∧
      (day = 365 → (y + 1) % 4 = 0 ∧ ((y + 1) % 100 = 0 → (y + 1) % 400 = 0)) := by
  obtain ⟨hcentury, hcycle, hyear, -, hn, hlast⟩ := h
  have h4 : y / 4 = century * 25 + cycle := by omega
  have h100 : y / 100 = century := by omega
  refine ⟨by omega, by omega, fun h365 => ?_⟩
  obtain ⟨h3, h24⟩ := hlast h365
  refine ⟨by omega, fun hcenturies => ?_⟩
  have := h24 (by omega)
  omega

/-! ## Months of a year -/

/-- The days from the first of March to the first of a month, months counted from March. -/
def monthStart (fromMarch : Int) : Int := (153 * fromMarch + 2) / 5

/-- The month, counted from March, of a day of a year. -/
def monthOfDay (dayOfYear : Int) : Int := (5 * dayOfYear + 2) / 153

/-- The days that a month counted from March has, February in a leap year. -/
def longestMonth (fromMarch : Int) : Int :=
  if fromMarch = 11 then 29 else if fromMarch = 1 ∨ fromMarch = 3 ∨ fromMarch = 6 ∨ fromMarch = 8 then 30 else 31

/-- The number of a month in the civil year. -/
def civilMonth (fromMarch : Int) : Int := if fromMarch < 10 then fromMarch + 3 else fromMarch - 9

theorem eq_of_fromMarch {fromMarch : Int} (h : 0 ≤ fromMarch ∧ fromMarch ≤ 11) :
    fromMarch = 0 ∨ fromMarch = 1 ∨ fromMarch = 2 ∨ fromMarch = 3 ∨ fromMarch = 4 ∨ fromMarch = 5 ∨
      fromMarch = 6 ∨ fromMarch = 7 ∨ fromMarch = 8 ∨ fromMarch = 9 ∨ fromMarch = 10 ∨ fromMarch = 11 := by omega

theorem isLeapYear_iff {year : Int64} :
    isLeapYear year = true ↔ year.toInt % 4 = 0 ∧ (year.toInt % 100 = 0 → year.toInt % 400 = 0) := by
  have h4 : (4 : Int64).toInt = 4 := rfl
  have h100 : (100 : Int64).toInt = 100 := rfl
  have h400 : (400 : Int64).toInt = 400 := rfl
  simp only [isLeapYear, Bool.or_eq_true, Bool.and_eq_true, beq_iff_eq, bne_iff_ne, ne_eq, Word.mod_eq_zero_iff, h4,
    h100, h400]
  omega

theorem daysInMonth_le (year : Int64) (month : UInt32) : (daysInMonth year month).toNat ≤ 31 := by
  unfold daysInMonth
  split
  · decide
  · split
    · split <;> decide
    · exact Nat.le_refl 31

theorem daysInMonth_of_fromMarch {year : Int64} {month : UInt32} {fromMarch : Int} (h : 0 ≤ fromMarch ∧ fromMarch ≤ 11)
    (hmonth : (month.toNat : Int) = civilMonth fromMarch) : ((daysInMonth year month).toNat : Int) =
      if fromMarch = 11 ∧ isLeapYear year = false then 28 else longestMonth fromMarch := by
  obtain rfl : month = .ofNat (civilMonth fromMarch).toNat := by rw [← hmonth, Int.toNat_natCast, UInt32.ofNat_toNat]
  clear hmonth
  rcases eq_of_fromMarch h with rfl | rfl | rfl | rfl | rfl | rfl | rfl | rfl | rfl | rfl | rfl | rfl <;>
    cases h : isLeapYear year <;> simp [civilMonth, daysInMonth, longestMonth, h]

theorem monthAndDay_spec {d fromMarch : Int} (h : 0 ≤ d ∧ d ≤ 365) (hm : monthOfDay d = fromMarch) :
    (0 ≤ fromMarch ∧ fromMarch ≤ 11) ∧ 0 ≤ d - monthStart fromMarch ∧
      d - monthStart fromMarch < longestMonth fromMarch ∧
      (fromMarch = 11 → (d - monthStart fromMarch = 28 ↔ d = 365)) := by
  rw [monthOfDay] at hm
  have hrange : 0 ≤ fromMarch ∧ fromMarch ≤ 11 := by omega
  rcases eq_of_fromMarch hrange with rfl | rfl | rfl | rfl | rfl | rfl | rfl | rfl | rfl | rfl | rfl | rfl <;>
    simp only [monthStart, longestMonth] <;> omega

/-! ## The place of a day -/

/-- The place of a day counted from 0000-03-01: an era, a year of it and a day of that year.  Only a year that ends with
a leap day has a day 365. -/
structure Place (days era year dayOfYear : Int) : Prop where
  year_range : 0 ≤ year ∧ year < 400
  day_range : 0 ≤ dayOfYear ∧ dayOfYear ≤ 365
  leap : dayOfYear = 365 → (year + 1) % 4 = 0 ∧ ((year + 1) % 100 = 0 → (year + 1) % 400 = 0)
  count : era * 146097 + (year * 365 + year / 4 - year / 100 + dayOfYear) = days

/-- A date stands at a place. -/
structure IsAt (d : CivilDate) (era year dayOfYear : Int) : Prop where
  year_eq : d.year.toInt = if monthOfDay dayOfYear < 10 then era * 400 + year else era * 400 + year + 1
  month_eq : (d.month.toNat : Int) = civilMonth (monthOfDay dayOfYear)
  day_eq : (d.day.toNat : Int) = dayOfYear - monthStart (monthOfDay dayOfYear) + 1

theorem IsAt.unique {d d' : CivilDate} {era year dayOfYear : Int} (h : d.IsAt era year dayOfYear)
    (h' : d'.IsAt era year dayOfYear) : d = d' := by
  obtain ⟨y, m, k⟩ := d
  obtain ⟨y', m', k'⟩ := d'
  obtain rfl : y = y' := Int64.toInt_inj.1 (h.year_eq.trans h'.year_eq.symm)
  obtain rfl : m = m' := UInt32.toNat_inj.1 (Int.ofNat_inj.1 (h.month_eq.trans h'.month_eq.symm))
  obtain rfl : k = k' := UInt32.toNat_inj.1 (Int.ofNat_inj.1 (h.day_eq.trans h'.day_eq.symm))
  rfl

theorem exists_place {n : Int} : ∃ year dayOfYear, Place n (n / 146097) year dayOfYear ∧
    (n % 146097 - n % 146097 / 1460 + n % 146097 / 36524 - n % 146097 / 146096) / 365 = year ∧
    n % 146097 - (365 * year + year / 4 - year / 100) = dayOfYear := by
  obtain ⟨century, cycle, year, day, hplace⟩ := exists_yearPlace (n := n % 146097) (by omega) (by omega)
  obtain ⟨hyear, hday, hleap⟩ := hplace.spec rfl
  refine ⟨_, _, ⟨hyear, hplace.day_range, hleap, ?_⟩, hplace.division_eq, hday⟩
  omega

/-! ### Words of dates -/

/-- The last day number whose distance from 0000-03-01 is within 64 bits. -/
def lastDay : Int64 := 9223372036854056339

theorem le_lastDay_iff {days : Int64} : days ≤ lastDay ↔ days.toInt + 719468 < 2 ^ 63 := by
  have hlast : lastDay.toInt = 9223372036854056339 := rfl
  rw [Int64.le_iff_toInt_le, hlast]
  omega

theorem yearOfDay_ofInt {n : Int} (h0 : 0 ≤ n) (h1 : n < 146097) :
    yearOfDay (.ofInt n) = .ofInt ((n - n / 1460 + n / 36524 - n / 146096) / 365) := by
  simp (disch := omega) only [Word.ofInt_ediv, Int64.ofInt_sub, Int64.ofInt_add]
  rfl

theorem dayOfYear_ofInt {n year : Int} (h : 0 ≤ year ∧ year < 400) :
    Int64.ofInt n - (365 * .ofInt year + .ofInt year / 4 - .ofInt year / 100) =
      .ofInt (n - (365 * year + year / 4 - year / 100)) := by
  simp (disch := omega) only [Word.ofInt_ediv, Int64.ofInt_sub, Int64.ofInt_add, Int64.ofInt_mul]
  rfl

theorem monthOfDay_ofInt {dayOfYear : Int} (h : 0 ≤ dayOfYear ∧ dayOfYear ≤ 365) :
    (5 * Int64.ofInt dayOfYear + 2) / 153 = .ofInt (monthOfDay dayOfYear) := by
  rw [monthOfDay, Word.ofInt_ediv (by omega) (by omega), Int64.ofInt_add, Int64.ofInt_mul]
  rfl

theorem daysBeforeMonth_ofInt {fromMarch : Int} (h : 0 ≤ fromMarch ∧ fromMarch ≤ 11) :
    daysBeforeMonth (.ofInt fromMarch) = .ofInt (monthStart fromMarch) := by
  rw [monthStart, Word.ofInt_ediv (by omega) (by omega), Int64.ofInt_add, Int64.ofInt_mul]
  rfl

theorem lt_ten_ofInt_iff {fromMarch : Int} (h : 0 ≤ fromMarch ∧ fromMarch ≤ 11) :
    Int64.ofInt fromMarch < 10 ↔ fromMarch < 10 := by
  have hten : (10 : Int64).toInt = 10 := rfl
  rw [Int64.lt_iff_toInt_lt, Int64.toInt_ofInt_of_le (by omega) (by omega), hten]

theorem civilMonth_range {fromMarch : Int} (h : 0 ≤ fromMarch ∧ fromMarch ≤ 11) :
    1 ≤ civilMonth fromMarch ∧ civilMonth fromMarch ≤ 12 ∧ (civilMonth fromMarch ≤ 2 ↔ ¬ fromMarch < 10) := by
  unfold civilMonth
  split <;> omega

theorem civilMonth_ofInt {fromMarch : Int} (h : 0 ≤ fromMarch ∧ fromMarch ≤ 11) :
    (if Int64.ofInt fromMarch < 10 then .ofInt fromMarch + 3 else .ofInt fromMarch - 9) =
      Int64.ofInt (civilMonth fromMarch) := by
  simp only [lt_ten_ofInt_iff h, civilMonth]
  split
  · rw [Int64.ofInt_add]
    rfl
  · rw [Int64.ofInt_sub]
    rfl

theorem low_civilMonth_le_two_iff {fromMarch : Int} (h : 0 ≤ fromMarch ∧ fromMarch ≤ 11) :
    Word.low (.ofInt (civilMonth fromMarch)) ≤ 2 ↔ ¬ fromMarch < 10 := by
  obtain ⟨h1, h12, htwo⟩ := civilMonth_range h
  have hlow := Word.toNat_low (n := civilMonth fromMarch) (by omega) (by omega)
  have hnat : (2 : UInt32).toNat = 2 := rfl
  rw [UInt32.le_iff_toNat_le, hnat, ← htwo]
  omega

/-- The date of a day number in terms of the place of the day. -/
theorem ofDays_eq {days : Int64} {n year dayOfYear : Int} (hz : (days + epochShift).toInt = n)
    (hplace : Place n (n / 146097) year dayOfYear)
    (hyear : (n % 146097 - n % 146097 / 1460 + n % 146097 / 36524 - n % 146097 / 146096) / 365 = year)
    (hday : n % 146097 - (365 * year + year / 4 - year / 100) = dayOfYear) :
    ofDays days = ⟨.ofInt (year + n / 146097 * 400 + if monthOfDay dayOfYear < 10 then 0 else 1),
      Word.low (.ofInt (civilMonth (monthOfDay dayOfYear))),
      Word.low (.ofInt (dayOfYear - monthStart (monthOfDay dayOfYear) + 1))⟩ := by
  have hmonth := (monthAndDay_spec hplace.day_range rfl).1
  have hera : Word.ediv (days + epochShift) 146097 = .ofInt (n / 146097) := by rw [Word.ediv, hz]; rfl
  have hrest : Word.emod (days + epochShift) 146097 = .ofInt (n % 146097) := by rw [Word.emod, hz]; rfl
  simp only [ofDays, hera, hrest, yearOfDay_ofInt (n := n % 146097) (by omega) (by omega), hyear,
    dayOfYear_ofInt hplace.year_range, hday, monthOfDay_ofInt hplace.day_range, daysBeforeMonth_ofInt hmonth,
    civilMonth_ofInt hmonth, low_civilMonth_le_two_iff hmonth, ite_not, Int64.ofInt_add, Int64.ofInt_sub,
    Int64.ofInt_mul]
  split <;> rfl

/-- **The date of a day number stands at the place of the day.** -/
theorem exists_place_ofDays {days : Int64} (h : days ≤ lastDay) : ∃ era year dayOfYear,
    Place (days.toInt + 719468) era year dayOfYear ∧ (ofDays days).IsAt era year dayOfYear := by
  rw [le_lastDay_iff] at h
  have hleast := days.le_toInt
  obtain ⟨n, hn⟩ : ∃ n, days.toInt + 719468 = n := ⟨_, rfl⟩
  rw [hn] at h
  have hz : (days + epochShift).toInt = n := Word.toInt_add hn (by omega) h
  obtain ⟨year, dayOfYear, hplace, hyear, hday⟩ := @exists_place n
  refine ⟨n / 146097, year, dayOfYear, by rwa [hn], ?_⟩
  rw [ofDays_eq hz hplace hyear hday]
  clear hyear hday hz
  obtain ⟨hmonth, hfirst, hlength, -⟩ := monthAndDay_spec hplace.day_range rfl
  obtain ⟨h1, h12, -⟩ := civilMonth_range hmonth
  have hdayRange := hplace.day_range
  have hyearRange := hplace.year_range
  have hstart : 0 ≤ monthStart (monthOfDay dayOfYear) := by
    unfold monthStart
    omega
  constructor
  · dsimp only
    rw [Int64.toInt_ofInt_of_le (by split <;> omega) (by split <;> omega)]
    split <;> omega
  · exact Word.toNat_low (by omega) (by omega)
  · exact Word.toNat_low (by omega) (by omega)

/-! ### Dates at a place -/

theorem valid_iff {d : CivilDate} : d.Valid ↔ (1 ≤ d.month.toNat ∧ d.month.toNat ≤ 12) ∧ 1 ≤ d.day.toNat ∧
    d.day.toNat ≤ (daysInMonth d.year d.month).toNat := by
  have h1 : (1 : UInt32).toNat = 1 := rfl
  have h12 : (12 : UInt32).toNat = 12 := rfl
  simp only [Valid, UInt32.le_iff_toNat_le, h1, h12]

/-- The days from 1970-01-01 to a date, whatever their number: those of the years since 0000-03-01, of the months since
March and of the month, less the days from 0000-03-01 to 1970-01-01. -/
def dayNumber (d : CivilDate) : Int :=
  let y := if d.month.toNat ≤ 2 then d.year.toInt - 1 else d.year.toInt
  365 * y + y / 4 - y / 100 + y / 400 + monthStart ((d.month.toNat + 9) % 12) + d.day.toNat - 1 - 719468

section Place

variable {d : CivilDate} {days era year dayOfYear : Int}

/-- **A date at the place of a day exists.** -/
theorem IsAt.valid (h : d.IsAt era year dayOfYear) (hplace : Place days era year dayOfYear) : d.Valid := by
  obtain ⟨hyear, hmonth, hday⟩ := h
  obtain ⟨-, hdayRange, hleap, -⟩ := hplace
  obtain ⟨hrange, hfirst, hlength, hlast⟩ := monthAndDay_spec hdayRange rfl
  obtain ⟨h1, h12, -⟩ := civilMonth_range hrange
  have hdays := @daysInMonth_of_fromMarch d.year d.month _ hrange hmonth
  have hfits : (d.day.toNat : Int) ≤ (daysInMonth d.year d.month).toNat := by
    rw [hdays]
    by_cases hfeb : monthOfDay dayOfYear = 11 ∧ isLeapYear d.year = false
    · rw [if_pos hfeb]
      obtain ⟨h11, hnot⟩ := hfeb
      rw [if_neg (by omega)] at hyear
      -- the 29th of February falls in a leap year
      have hne : dayOfYear - monthStart (monthOfDay dayOfYear) ≠ 28 := fun h28 => by
        obtain ⟨h4, h100⟩ := hleap ((hlast h11).1 h28)
        rw [isLeapYear_iff.2 ⟨by omega, by omega⟩] at hnot
        cases hnot
      rw [longestMonth, if_pos h11] at hlength
      omega
    · rw [if_neg hfeb]
      omega
  exact valid_iff.2 ⟨by omega, by omega, by omega⟩

/-- **The exact count of a date at a place** is that of the place. -/
theorem IsAt.dayNumber (h : d.IsAt era year dayOfYear) (hplace : Place days era year dayOfYear) :
    d.dayNumber = days - 719468 := by
  obtain ⟨hyear, hmonth, hday⟩ := h
  obtain ⟨hyearRange, hdayRange, -, hcount⟩ := hplace
  have hrange := (monthAndDay_spec hdayRange rfl).1
  obtain ⟨h1, h12, htwo⟩ := civilMonth_range hrange
  have hfromMarch : ((d.month.toNat : Int) + 9) % 12 = monthOfDay dayOfYear := by
    rw [hmonth, civilMonth]
    split <;> omega
  have hy : (if d.month.toNat ≤ 2 then d.year.toInt - 1 else d.year.toInt) = era * 400 + year := by
    by_cases h : monthOfDay dayOfYear < 10
    · rw [if_neg (by omega), hyear, if_pos h]
    · rw [if_pos (by omega), hyear, if_neg h]
      omega
  simp only [CivilDate.dayNumber, hy, hfromMarch, hday]
  have hera : (era * 400 + year) / 400 = era := by omega
  have h4 : (era * 400 + year) / 4 = era * 100 + year / 4 := by omega
  have h100 : (era * 400 + year) / 100 = era * 4 + year / 100 := by omega
  rw [hera, h4, h100]
  omega

end Place

section OfDays

variable {days : Int64}

/-- **The date of a day number exists.** -/
theorem valid_ofDays (h : days ≤ lastDay) : (ofDays days).Valid := by
  obtain ⟨_, _, _, hplace, hdate⟩ := exists_place_ofDays h
  exact hdate.valid hplace

/-- **The date of a day number is that many days from 1970-01-01.** -/
theorem dayNumber_ofDays (h : days ≤ lastDay) : (ofDays days).dayNumber = days.toInt := by
  obtain ⟨_, _, _, hplace, hdate⟩ := exists_place_ofDays h
  rw [hdate.dayNumber hplace]
  omega

theorem natAbs_year_ofDays_lt (h0 : -2 ^ 31 ≤ days.toInt) (h1 : days.toInt < 2 ^ 31) :
    (ofDays days).year.toInt.natAbs < 10 ^ 9 := by
  have hlast : days ≤ lastDay := le_lastDay_iff.2 (by omega)
  obtain ⟨era, year, d, ⟨hyear, hd, -, hdays⟩, heq⟩ := exists_place_ofDays hlast
  have := heq.year_eq
  split at this <;> omega

end OfDays

/-! ## The day number of a date -/

theorem fromMarch_ofUInt32 (month : UInt32) :
    (Word.ofUInt32 month + 9) % 12 = .ofInt (((month.toNat : Int) + 9) % 12) := by
  have := month.toNat_lt
  rw [Word.ofInt_emod (by omega) (by omega), Int64.ofInt_add, Int64.ofInt_eq_ofNat]
  rfl

theorem toInt_yearFromMarch {d : CivilDate} (hyear : -2 ^ 63 < d.year.toInt) :
    (if d.month ≤ 2 then d.year - 1 else d.year).toInt =
      if d.month.toNat ≤ 2 then d.year.toInt - 1 else d.year.toInt := by
  have hlt := d.year.toInt_lt
  have hpred : (d.year - 1).toInt = d.year.toInt - 1 := Word.toInt_sub rfl (by omega) (by omega)
  by_cases h : d.month.toNat ≤ 2
  · rw [if_pos (UInt32.le_iff_toNat_le.2 h), if_pos h, hpred]
  · rw [if_neg (mt UInt32.le_iff_toNat_le.1 h), if_neg h]

/-- **The word of a day number is that of the exact count.** -/
theorem toDays_eq_ofInt {d : CivilDate} (hyear : -2 ^ 63 < d.year.toInt) : d.toDays = .ofInt d.dayNumber := by
  obtain ⟨y, hy⟩ : ∃ y, (if d.month.toNat ≤ 2 then d.year.toInt - 1 else d.year.toInt) = y := ⟨_, rfl⟩
  have hword := toInt_yearFromMarch hyear
  rw [hy] at hword
  have hera : Word.ediv (if d.month ≤ 2 then d.year - 1 else d.year) 400 = .ofInt (y / 400) := by
    rw [Word.ediv, hword]
    rfl
  have hrest : Word.emod (if d.month ≤ 2 then d.year - 1 else d.year) 400 = .ofInt (y % 400) := by
    rw [Word.emod, hword]
    rfl
  have hnumber : d.dayNumber = y / 400 * 146097 + (y % 400 * 365 + y % 400 / 4 - y % 400 / 100 +
      (monthStart (((d.month.toNat : Int) + 9) % 12) + d.day.toNat - 1)) - 719468 := by
    simp only [CivilDate.dayNumber, hy]
    omega
  rw [hnumber, toDays]
  simp only [hera, hrest, fromMarch_ofUInt32, daysBeforeMonth_ofInt
    (show 0 ≤ ((d.month.toNat : Int) + 9) % 12 ∧ ((d.month.toNat : Int) + 9) % 12 ≤ 11 by omega)]
  simp (disch := omega) only [Int64.ofInt_add, Int64.ofInt_sub, Int64.ofInt_mul, Word.ofInt_ediv]
  rw [Int64.ofInt_eq_ofNat]
  rfl

/-- The dates whose day number and its distance from 0000-03-01 are within 64 bits. -/
def Countable (d : CivilDate) : Prop := -2 ^ 63 ≤ d.dayNumber ∧ d.dayNumber ≤ lastDay.toInt

theorem Countable.lt_year {d : CivilDate} (h : d.Countable) : -2 ^ 63 < d.year.toInt := by
  have hday := d.day.toNat_lt
  obtain ⟨h0, -⟩ := h
  simp only [dayNumber, monthStart] at h0
  split at h0 <;> omega

/-- **The day number of a date is its count**, as long as the count is within 64 bits. -/
theorem toInt_toDays {d : CivilDate} (h : d.Countable) : d.toDays.toInt = d.dayNumber := by
  have hlast := lastDay.toInt_lt
  rw [toDays_eq_ofInt h.lt_year, Int64.toInt_ofInt_of_le h.1 (by have := h.2; omega)]

theorem countable_of_dayNumber_eq {d : CivilDate} {days : Int64} (hd : d.dayNumber = days.toInt) (h : days ≤ lastDay) :
    d.Countable := by
  rw [Countable, hd]
  exact ⟨days.le_toInt, Int64.le_iff_toInt_le.1 h⟩

/-- **The day number of the date of a day number** is that number. -/
theorem toDays_ofDays {days : Int64} (h : days ≤ lastDay) : (ofDays days).toDays = days := by
  have hnumber := dayNumber_ofDays h
  rw [← Int64.toInt_inj, toInt_toDays (countable_of_dayNumber_eq hnumber h), hnumber]

/-- **The dates of 25000 million million years either way can be counted.** -/
theorem countable_of_natAbs_le {d : CivilDate} (hd : d.Valid) (hyear : d.year.toInt.natAbs ≤ 25 * 10 ^ 15) :
    d.Countable := by
  have hlast : lastDay.toInt = 9223372036854056339 := rfl
  have hday := daysInMonth_le d.year d.month
  obtain ⟨-, -, hd⟩ := valid_iff.1 hd
  rw [Countable, hlast]
  simp only [dayNumber, monthStart]
  split <;> omega

end CivilDate
end ShapeBinding
