import ShapeBinding.Proofs.Time.Calendar
/-!
# The days one after the other

A day has one place in the calendar that counts from March: an era, a year of it and a day of that year
(`CivilDate.Place.unique`).  The date of a day number and a date that exists both stand at theirs, so the date of the
day number of a date is that date (`CivilDate.ofDays_toDays`).  The date that follows has the next count, at the end of
a month and of a year as well (`CivilDate.dayNumber_next`), so the dates of the day numbers follow one another, up to
the last day number whose distance from 0000-03-01 is a word (`CivilDate.not_consecutive_after_lastDay`).
-/
namespace ShapeBinding
namespace CivilDate

/-! ## One place for a day -/

section Place

variable {days era era' year year' dayOfYear dayOfYear' : Int}

theorem firstDay_mono {a b : Int} (h : a ≤ b) : a * 365 + a / 4 - a / 100 ≤ b * 365 + b / 4 - b / 100 := by omega

theorem Place.lt_nextYear (h : Place days era year dayOfYear) (hlast : year < 399) :
    days < era * 146097 + ((year + 1) * 365 + (year + 1) / 4 - (year + 1) / 100) := by
  obtain ⟨hyear, hday, hleap, hcount⟩ := h
  omega

theorem Place.year_le (h : Place days era year dayOfYear) (h' : Place days era year' dayOfYear') : year' ≤ year := by
  refine Int.not_lt.1 fun hlt => ?_
  have hnext := h.lt_nextYear (by have := h'.year_range; omega)
  have hmono := firstDay_mono (show year + 1 ≤ year' by omega)
  have hcount := h'.count
  have hday := h'.day_range
  omega

/-- **A day has one place.** -/
theorem Place.unique (h : Place days era year dayOfYear) (h' : Place days era' year' dayOfYear') :
    era = era' ∧ year = year' ∧ dayOfYear = dayOfYear' := by
  have hera : era = era' := by
    obtain ⟨hyear, hday, hleap, hcount⟩ := h
    obtain ⟨hyear', hday', hleap', hcount'⟩ := h'
    omega
  subst hera
  have hyear : year = year' := Int.le_antisymm (h'.year_le h) (h.year_le h')
  subst hyear
  have hcount := h.count
  have hcount' := h'.count
  exact ⟨rfl, rfl, by omega⟩

end Place

/-! ## Dates that exist -/

theorem dayOfYear_spec {fromMarch day : Int} (h : 0 ≤ fromMarch ∧ fromMarch ≤ 11) (hday : 1 ≤ day)
    (hlength : day ≤ longestMonth fromMarch) :
    (0 ≤ monthStart fromMarch + day - 1 ∧ monthStart fromMarch + day - 1 ≤ 365) ∧
      monthOfDay (monthStart fromMarch + day - 1) = fromMarch ∧
      (monthStart fromMarch + day - 1 = 365 → fromMarch = 11 ∧ day = 29) := by
  rcases eq_of_fromMarch h with rfl | rfl | rfl | rfl | rfl | rfl | rfl | rfl | rfl | rfl | rfl | rfl <;>
    simp [monthStart, monthOfDay, longestMonth] at hlength ⊢ <;> omega

theorem le_longestMonth {d : CivilDate} (h : d.Valid) {fromMarch : Int}
    (hm : ((d.month.toNat : Int) + 9) % 12 = fromMarch) :
    (d.month.toNat : Int) = civilMonth fromMarch ∧ (d.day.toNat : Int) ≤ longestMonth fromMarch ∧
      (fromMarch = 11 → d.day.toNat = 29 → isLeapYear d.year = true) := by
  obtain ⟨⟨hm1, hm12⟩, -, hday⟩ := valid_iff.1 h
  have hmonth : (d.month.toNat : Int) = civilMonth fromMarch := by
    unfold civilMonth
    split <;> omega
  have hlength := @daysInMonth_of_fromMarch d.year d.month fromMarch (by omega) hmonth
  refine ⟨hmonth, ?_⟩
  split at hlength
  · rename_i hfeb
    rw [longestMonth, if_pos hfeb.1]
    exact ⟨by omega, fun _ h29 => by omega⟩
  · rename_i hfeb
    refine ⟨by omega, fun h11 _ => ?_⟩
    cases hleap : isLeapYear d.year
    · exact absurd ⟨h11, hleap⟩ hfeb
    · rfl

/-- **A date that exists stands at the place of its count.** -/
theorem exists_place_dayNumber {d : CivilDate} (h : d.Valid) : ∃ era year dayOfYear,
    Place (d.dayNumber + 719468) era year dayOfYear ∧ d.IsAt era year dayOfYear := by
  obtain ⟨hm, hlength, hleap⟩ := le_longestMonth h rfl
  obtain ⟨⟨hm1, hm12⟩, hday1, -⟩ := valid_iff.1 h
  obtain ⟨fromMarch, hfromMarch⟩ : ∃ fromMarch, ((d.month.toNat : Int) + 9) % 12 = fromMarch := ⟨_, rfl⟩
  rw [hfromMarch] at hm hlength hleap
  have hrangeMarch : 0 ≤ fromMarch ∧ fromMarch ≤ 11 := by omega
  obtain ⟨hrange, hmonth, hlast⟩ := dayOfYear_spec hrangeMarch (show 1 ≤ (d.day.toNat : Int) by omega) hlength
  obtain ⟨-, -, htwo⟩ := civilMonth_range hrangeMarch
  obtain ⟨y, hy⟩ : ∃ y, (if d.month.toNat ≤ 2 then d.year.toInt - 1 else d.year.toInt) = y := ⟨_, rfl⟩
  refine ⟨y / 400, y % 400, monthStart fromMarch + d.day.toNat - 1, ⟨by omega, hrange, ?_, ?_⟩, ⟨?_, ?_, ?_⟩⟩
  · intro h365
    obtain ⟨h11, h29⟩ := hlast h365
    obtain ⟨h4, h100⟩ := isLeapYear_iff.1 (hleap h11 (by omega))
    rw [if_pos (by omega)] at hy
    exact ⟨by omega, fun _ => by omega⟩
  · simp only [dayNumber, hfromMarch, hy]
    omega
  · rw [hmonth]
    split at hy <;> split <;> omega
  · rw [hmonth, hm]
  · rw [hmonth]
    omega

/-- **The date of the day number of a date** is that date, if it exists and can be counted. -/
theorem ofDays_toDays {d : CivilDate} (h : d.Valid) (hcount : d.Countable) : ofDays d.toDays = d := by
  have hnumber := toInt_toDays hcount
  have hlast : d.toDays ≤ lastDay := Int64.le_iff_toInt_le.2 (by rw [hnumber]; exact hcount.2)
  obtain ⟨era, year, dayOfYear, hplace, hdate⟩ := exists_place_dayNumber h
  obtain ⟨era', year', dayOfYear', hplace', hofDays⟩ := exists_place_ofDays hlast
  rw [hnumber] at hplace'
  obtain ⟨rfl, rfl, rfl⟩ := hplace.unique hplace'
  exact hofDays.unique hdate

/-! ## The date that follows -/

/-- The next day of the month if there is one, else the first of the next month, else the first of January. -/
def next (d : CivilDate) : CivilDate :=
  if d.day < daysInMonth d.year d.month then ⟨d.year, d.month, d.day + 1⟩
  else if d.month < 12 then ⟨d.year, d.month + 1, 1⟩
  else ⟨d.year + 1, 1, 1⟩

theorem daysInMonth_pos (year : Int64) (month : UInt32) : 1 ≤ (daysInMonth year month).toNat := by
  unfold daysInMonth
  split
  · decide
  · split
    · split <;> decide
    · decide

theorem toNat_succ {n : UInt32} (h : n.toNat < 31) : (n + 1).toNat = n.toNat + 1 := by
  rw [UInt32.toNat_add]
  exact Nat.mod_eq_of_lt (by change n.toNat + 1 < _; omega)

/-- What the next date is, in numbers.  The last year is left out, which no word follows. -/
theorem next_cases {d : CivilDate} (h : d.Valid) (hyear : d.year.toInt + 1 < 2 ^ 63) :
    (d.day.toNat < (daysInMonth d.year d.month).toNat ∧ d.next.year = d.year ∧ d.next.month = d.month ∧
        d.next.day.toNat = d.day.toNat + 1) ∨
      (d.day.toNat = (daysInMonth d.year d.month).toNat ∧ d.month.toNat < 12 ∧ d.next.year = d.year ∧
        d.next.month.toNat = d.month.toNat + 1 ∧ d.next.day.toNat = 1) ∨
      (d.day.toNat = (daysInMonth d.year d.month).toNat ∧ d.month.toNat = 12 ∧ d.next.year.toInt = d.year.toInt + 1 ∧
        d.next.month.toNat = 1 ∧ d.next.day.toNat = 1) := by
  have hlength := daysInMonth_le d.year d.month
  obtain ⟨⟨hm1, hm12⟩, hday1, hday⟩ := valid_iff.1 h
  have h12 : (12 : UInt32).toNat = 12 := rfl
  unfold next
  split
  · rename_i hlt
    rw [UInt32.lt_iff_toNat_lt] at hlt
    exact .inl ⟨hlt, rfl, rfl, toNat_succ (by omega)⟩
  · rename_i hlast
    rw [UInt32.lt_iff_toNat_lt] at hlast
    split
    · rename_i hmonth
      rw [UInt32.lt_iff_toNat_lt, h12] at hmonth
      exact .inr (.inl ⟨by omega, hmonth, rfl, toNat_succ (by omega), rfl⟩)
    · rename_i hmonth
      rw [UInt32.lt_iff_toNat_lt, h12] at hmonth
      have hleast := d.year.le_toInt
      have hsucc : (d.year + 1).toInt = d.year.toInt + 1 := Word.toInt_add rfl (by omega) hyear
      exact .inr (.inr ⟨by omega, by omega, hsucc, rfl, rfl⟩)

theorem Valid.next {d : CivilDate} (h : d.Valid) (hyear : d.year.toInt + 1 < 2 ^ 63) : d.next.Valid := by
  obtain ⟨⟨hm1, hm12⟩, hday1, hday⟩ := valid_iff.1 h
  have hpos := daysInMonth_pos d.next.year d.next.month
  rw [valid_iff]
  rcases next_cases h hyear with ⟨hlt, hy, hm, hd⟩ | ⟨-, hlt, -, hm, hd⟩ | ⟨-, -, -, hm, hd⟩
  · rw [hy, hm, hd]
    omega
  · omega
  · omega

/-- The count of a date in terms of the years since 0000-03-01. -/
theorem dayNumber_eq {d : CivilDate} {y fromMarch : Int}
    (hy : (if d.month.toNat ≤ 2 then d.year.toInt - 1 else d.year.toInt) = y)
    (hm : ((d.month.toNat : Int) + 9) % 12 = fromMarch) : d.dayNumber =
      365 * y + y / 4 - y / 100 + y / 400 + monthStart fromMarch + d.day.toNat - 1 - 719468 := by
  simp only [dayNumber, hy, hm]

theorem monthStart_succ {fromMarch : Int} (h : 0 ≤ fromMarch ∧ fromMarch ≤ 10) :
    monthStart (fromMarch + 1) = monthStart fromMarch + longestMonth fromMarch := by
  have hrange : 0 ≤ fromMarch ∧ fromMarch ≤ 11 := by omega
  rcases eq_of_fromMarch hrange with
    rfl | rfl | rfl | rfl | rfl | rfl | rfl | rfl | rfl | rfl | rfl | rfl <;>
    first | rfl | omega

/-- The first of a month follows the last of the month before. -/
theorem dayNumber_firstOfMonth {d d' : CivilDate} {y fromMarch : Int} (hrange : 0 ≤ fromMarch ∧ fromMarch ≤ 11)
    (hmonth : (d.month.toNat : Int) = civilMonth fromMarch)
    (hday : d.day.toNat = (daysInMonth d.year d.month).toNat) (hday' : d'.day.toNat = 1)
    (hmonth' : ((d'.month.toNat : Int) + 9) % 12 = (fromMarch + 1) % 12)
    (hy : (if d.month.toNat ≤ 2 then d.year.toInt - 1 else d.year.toInt) = y)
    (hy' : (if d'.month.toNat ≤ 2 then d'.year.toInt - 1 else d'.year.toInt) = if fromMarch = 11 then y + 1 else y) :
    d'.dayNumber = d.dayNumber + 1 := by
  have hlength := @daysInMonth_of_fromMarch d.year d.month fromMarch hrange hmonth
  have hm : ((d.month.toNat : Int) + 9) % 12 = fromMarch := by
    rw [hmonth, civilMonth]
    split <;> omega
  rw [dayNumber_eq hy hm, dayNumber_eq hy' hmonth', hday, hday', hlength]
  by_cases hfeb : fromMarch = 11
  · -- the first of March begins a year, after a February that may have a leap day
    have hyear : y + 1 = d.year.toInt := by
      rw [← hy, if_pos (by rw [← Int.ofNat_le, hmonth, hfeb]; decide)]
      omega
    have hleap := @isLeapYear_iff d.year
    subst hfeb
    rw [if_pos rfl]
    cases h : isLeapYear d.year <;> simp [h, monthStart, longestMonth] at hleap ⊢ <;> omega
  · rw [if_neg hfeb, if_neg fun h => hfeb h.1, Int.emod_eq_of_lt (by omega) (by omega),
      monthStart_succ (show 0 ≤ fromMarch ∧ fromMarch ≤ 10 by omega)]
    omega

/-- **The date that follows has the next count.** -/
theorem dayNumber_next {d : CivilDate} (h : d.Valid) (hyear : d.year.toInt + 1 < 2 ^ 63) :
    d.next.dayNumber = d.dayNumber + 1 := by
  obtain ⟨⟨hm1, hm12⟩, -, -⟩ := valid_iff.1 h
  rcases next_cases h hyear with ⟨-, hy, hm, hd⟩ | ⟨hlast, hlt, hy, hm, hd⟩ | ⟨hlast, hdec, hy, hm, hd⟩
  · simp only [dayNumber, hy, hm, hd]
    omega
  · obtain ⟨hmonth, -⟩ := le_longestMonth h rfl
    refine dayNumber_firstOfMonth (by omega) hmonth hlast hd (by omega) rfl ?_
    rw [hm, hy]
    split <;> split <;> split <;> omega
  · obtain ⟨hmonth, -⟩ := le_longestMonth h rfl
    refine dayNumber_firstOfMonth (by omega) hmonth hlast hd (by omega) rfl ?_
    rw [hm, hy, hdec]
    simp

theorem Countable.year_lt {d : CivilDate} (h : d.Countable) : d.year.toInt + 1 < 2 ^ 63 := by
  have hlast : lastDay.toInt = 9223372036854056339 := rfl
  obtain ⟨-, h1⟩ := h
  rw [hlast] at h1
  simp only [dayNumber, monthStart] at h1
  split at h1 <;> omega

/-- **Day numbers count the dates** as far as their distance from 0000-03-01 is a word.  Each is that of one date that
exists, each date that exists has one if its count is so far, as it is within 25000 million million years either way,
and the date of the next day number is the date that follows; the count begins on 1970-01-01. -/
theorem ofDays_inverse_and_consecutive :
    (∀ days : Int64, days ≤ lastDay → (ofDays days).Valid ∧ (ofDays days).toDays = days ∧
        (days < lastDay → ofDays (days + 1) = (ofDays days).next)) ∧
      (∀ d : CivilDate, d.Valid → d.Countable → ofDays d.toDays = d) ∧
      (∀ d : CivilDate, d.Valid → d.year.toInt.natAbs ≤ 25 * 10 ^ 15 → d.Countable) ∧ ofDays 0 = ⟨1970, 1, 1⟩ := by
  refine ⟨fun days h => ⟨valid_ofDays h, toDays_ofDays h, fun hlt => ?_⟩, fun d => ofDays_toDays,
    fun d => countable_of_natAbs_le, by decide +kernel⟩
  have hlast : lastDay.toInt = 9223372036854056339 := rfl
  rw [Int64.lt_iff_toInt_lt, hlast] at hlt
  have hnumber := dayNumber_ofDays h
  have hyear := (countable_of_dayNumber_eq hnumber h).year_lt
  have hnext := dayNumber_next (valid_ofDays h) hyear
  have hleast := days.le_toInt
  have hsucc : (days + 1).toInt = days.toInt + 1 := Word.toInt_add rfl (by omega) (by omega)
  rw [hnumber, ← hsucc] at hnext
  have hcountable := countable_of_dayNumber_eq hnext (by rw [Int64.le_iff_toInt_le, hlast]; omega)
  have htoDays : (ofDays days).next.toDays = days + 1 := by
    rw [← Int64.toInt_inj, toInt_toDays hcountable, hnext]
  rw [← htoDays, ofDays_toDays ((valid_ofDays h).next hyear) hcountable]

/-- The leap day of a year that is a century, before the year 0, and the date after it. -/
theorem ofDays_toDays_ancient_leapDay : (⟨-400, 2, 29⟩ : CivilDate).Valid ∧ (⟨-400, 2, 29⟩ : CivilDate).Countable ∧
    ofDays (toDays ⟨-400, 2, 29⟩) = ⟨-400, 2, 29⟩ ∧ ofDays (toDays ⟨-400, 2, 29⟩ + 1) = ⟨-400, 3, 1⟩ := by
  obtain ⟨hnumbers, hdates, hcountable, -⟩ := ofDays_inverse_and_consecutive
  have hvalid : (⟨-400, 2, 29⟩ : CivilDate).Valid := by decide +kernel
  have hcount := hcountable _ hvalid (by decide +kernel)
  have hdate := hdates _ hvalid hcount
  obtain ⟨-, -, hnext⟩ := hnumbers (toDays ⟨-400, 2, 29⟩) (by decide +kernel)
  rw [hdate] at hnext
  exact ⟨hvalid, hcount, hdate, hnext (by decide +kernel)⟩

/-- **After the last such day number the dates are no longer consecutive**, although the next date exists and its count
is a word: the distance from 0000-03-01 wraps, so that the date of the next day number lies before all the others, and
the date that follows does not come back. -/
theorem not_consecutive_after_lastDay :
    ofDays lastDay = ⟨25252734927766554, 9, 25⟩ ∧ (⟨25252734927766554, 9, 26⟩ : CivilDate).Valid ∧
      (⟨25252734927766554, 9, 26⟩ : CivilDate).dayNumber = (lastDay + 1).toInt ∧
      ofDays (lastDay + 1) ≠ (ofDays lastDay).next ∧
      ofDays (toDays ⟨25252734927766554, 9, 26⟩) ≠ ⟨25252734927766554, 9, 26⟩ := by
  decide +kernel

end CivilDate
end ShapeBinding
