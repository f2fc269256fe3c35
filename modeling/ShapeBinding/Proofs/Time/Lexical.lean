import ShapeBinding.Proofs.Time.Parts
/-!
# Dates and times are read as they were written

The form of a date is read as its day number and its zone (`Time.readDate_dateChars`), that of a time of day as its
microseconds (`Time.readTime_timeChars`), and that of an instant as the instant (`Time.readDateTime_dateTimeChars`),
provided that the offset can be shown and that the clock in the zone does not leave the range.  What was read is always
of this kind (`Time.offsetInRange_of_readDate`, `Time.range_of_readTime`, `Time.showable_of_readDateTime`).  The range
of the clock begins four hours before its first midnight, and an instant whose clock stands there is written but not
read (`Time.readDateTime_dateTimeChars_of_lt`).
-/
namespace ShapeBinding
namespace Time

/-! ## Dates -/

/-- **A date is read as it was written.** -/
theorem readDate_dateChars (days : Int32) {offset : Option Int16} (h : OffsetInRange offset) :
    readDate (dateChars days offset) = .ok (days, offset) := by
  obtain ⟨hcivil, hnumber⟩ := civilForm_ofDays days.le_toInt days.toInt_lt
  rw [dateChars, ← Int64.ofInt_int32ToInt]
  exact readDate_eq_ok_iff.2 ⟨_, _, _, rfl, hcivil, zoneForm_zoneChars h, hnumber.symm⟩

theorem offsetInRange_of_readDate {s : List Char} {days : Int32} {offset : Option Int16}
    (h : readDate s = .ok (days, offset)) : OffsetInRange offset := by
  obtain ⟨_, _, _, -, -, hzone, -⟩ := readDate_eq_ok_iff.1 h
  exact hzone.offsetInRange

/-! ## Times of day -/

/-- **A time of day is read as it was written**, with its zone. -/
theorem readTime_timeChars {micros : Int64} (h0 : 0 ≤ micros.toInt) (h1 : micros.toInt < microsPerDay)
    {offset : Option Int16} (h : OffsetInRange offset) :
    readTime (timeChars micros.toInt offset) = .ok (micros, offset) :=
  readTime_eq_ok_iff.2 ⟨_, _, rfl, clockForm_clockChars h0 h1, zoneForm_zoneChars h⟩

theorem range_of_readTime {s : List Char} {micros : Int64} {offset : Option Int16}
    (h : readTime s = .ok (micros, offset)) :
    (0 ≤ micros.toInt ∧ micros.toInt < microsPerDay) ∧ OffsetInRange offset := by
  obtain ⟨_, _, -, hclock, hzone⟩ := readTime_eq_ok_iff.1 h
  exact ⟨hclock.range, hzone.offsetInRange⟩

/-! ## Dates with times -/

theorem notMem_civilChars (d : CivilDate) : 'T' ∉ civilChars d := by
  unfold civilChars
  split <;> simp [notMem_padded]

/-- **The parts of a date with a time**: a zone, a date that exists and a clock. -/
def HasParts (s : List Char) (offset : Option Int16) (day : CivilDate) (time : Int) : Prop :=
  ∃ body date clock, cutZone s = .ok (body, offset) ∧ cutAt 'T' body = some (date, clock) ∧
    readCivil date = .ok day ∧ readClock clock = .ok time

section Parts

variable {s : List Char} {offset : Option Int16} {day : CivilDate} {days time : Int} {instant : Int64}

theorem instant?_eq_some_iff : instant? days time offset = some instant ↔
    instant.toInt = days * microsPerDay + time - zoneShift offset ∧ (∃ w, int64? (days * microsPerDay) = some w) ∧
      ∃ w, int64? (days * microsPerDay + time) = some w := by
  unfold instant?
  constructor
  · intro h
    obtain ⟨midnight, hmidnight, h⟩ := Option.bind_eq_some_iff.1 h
    obtain ⟨reading, hreading, h⟩ := Option.bind_eq_some_iff.1 h
    have hm := int64?_eq_some_iff.1 hmidnight
    rw [hm] at hreading
    have hr := int64?_eq_some_iff.1 hreading
    rw [hr, int64?_eq_some_iff] at h
    exact ⟨h, ⟨midnight, hmidnight⟩, ⟨reading, hreading⟩⟩
  · rintro ⟨h, ⟨midnight, hmidnight⟩, ⟨reading, hreading⟩⟩
    have hm := int64?_eq_some_iff.1 hmidnight
    have hr := int64?_eq_some_iff.1 hreading
    refine Option.bind_eq_some_iff.2 ⟨midnight, hmidnight, Option.bind_eq_some_iff.2 ⟨reading, by rw [hm, hreading], ?_⟩⟩
    rw [hr, int64?_eq_some_iff]
    exact h

/-- **A date with a time is read from its parts**: what is left to check is the range of the instant. -/
theorem readDateTime_eq_of_parts (h : HasParts s offset day time) : readDateTime s =
    match instant? day.dayNumber time offset with
    | some instant => .ok (instant, offset)
    | none => .error (.outOfRange .year) := by
  obtain ⟨body, date, clock, hzone, hbody, hdate, hclock⟩ := h
  have hnumber := (readCivil_eq_ok_iff.1 hdate).toInt_toDays
  simp only [readDateTime, hzone, hbody, hdate, bind, Except.bind]
  -- the day number stands for itself from here on, so that nothing computes it
  generalize day.toDays.toInt = days at hnumber ⊢
  subst hnumber
  generalize day.dayNumber = days
  cases hinstant : instant? days time offset <;> simp only [hclock, hinstant]

theorem readDateTime_of_parts (h : HasParts s offset day time) : readDateTime s = .ok (instant, offset) ↔
    instant.toInt = day.dayNumber * microsPerDay + time - zoneShift offset ∧
      (∃ w, int64? (day.dayNumber * microsPerDay) = some w) ∧
      ∃ w, int64? (day.dayNumber * microsPerDay + time) = some w := by
  rw [readDateTime_eq_of_parts h, ← instant?_eq_some_iff]
  cases instant? day.dayNumber time offset <;> simp

/-- A date whose midnight is out of range is refused, whatever the time. -/
theorem readDateTime_of_parts_of_lt (h : HasParts s offset day time) (hout : day.dayNumber * microsPerDay < -2 ^ 63) :
    readDateTime s = .error (.outOfRange .year) := by
  have hmidnight : int64? (day.dayNumber * microsPerDay) = none := int64?_eq_none_iff.2 (.inl hout)
  have hinstant : instant? day.dayNumber time offset = none := by rw [instant?, hmidnight]; rfl
  rw [readDateTime_eq_of_parts h, hinstant]

theorem exists_hasParts_of_readDateTime (h : readDateTime s = .ok (instant, offset)) :
    ∃ day time, HasParts s offset day time := by
  obtain ⟨⟨body, zone⟩, hzone, h⟩ := bind_eq_ok_iff.1 h
  dsimp only at h
  split at h
  · rename_i date clock hbody
    obtain ⟨day, hdate, h⟩ := bind_eq_ok_iff.1 h
    obtain ⟨time, hclock, h⟩ := bind_eq_ok_iff.1 h
    obtain rfl : zone = offset := by
      split at h
      · exact (Prod.mk.inj (Except.ok.inj h)).2
      · cases h
    exact ⟨day, time, body, date, clock, hzone, hbody, hdate, hclock⟩
  · cases h

theorem HasParts.range (h : HasParts s offset day time) :
    OffsetInRange offset ∧ 0 ≤ time ∧ time < microsPerDay := by
  obtain ⟨body, date, clock, hzone, -, -, hclock⟩ := h
  obtain ⟨zone, -, hform⟩ := exists_zoneForm_of_cutZone hzone
  exact ⟨hform.offsetInRange, (readClock_eq_ok_iff.1 hclock).range⟩

/-- **What is written of an instant has the parts of its reading**, if the reading is within 64 bits. -/
theorem exists_hasParts_dateTimeChars (hoffset : OffsetInRange offset)
    (h0 : -2 ^ 63 ≤ instant.toInt + zoneShift offset) (h1 : instant.toInt + zoneShift offset < 2 ^ 63) :
    ∃ day, HasParts (dateTimeChars instant offset) offset day ((instant.toInt + zoneShift offset) % microsPerDay) ∧
      day.dayNumber = (instant.toInt + zoneShift offset) / microsPerDay := by
  have hday : microsPerDay = 86400000000 := rfl
  obtain ⟨reading, hreading⟩ : ∃ reading, instant.toInt + zoneShift offset = reading := ⟨_, rfl⟩
  rw [hreading] at h0 h1
  have hdays : -2 ^ 31 ≤ reading / microsPerDay ∧ reading / microsPerDay < 2 ^ 31 := by
    rw [hday]
    omega
  have hword : (instant + .ofInt (zoneShift offset)).toInt = reading := by
    rw [← Int64.ofInt_toInt instant, ← Int64.ofInt_add, hreading, Int64.toInt_ofInt_of_le h0 h1]
  have hchars : dateTimeChars instant offset = civilChars (CivilDate.ofDays (.ofInt (reading / microsPerDay))) ++
      'T' :: (clockChars (reading % microsPerDay) ++ zoneChars offset) := by
    simp only [dateTimeChars, hword]
  rw [hchars, hreading]
  have hclock0 : 0 ≤ reading % microsPerDay := Int.emod_nonneg _ (by decide)
  have hclock1 : reading % microsPerDay < microsPerDay := Int.emod_lt_of_pos _ (by decide)
  have hclock := clockForm_clockChars hclock0 hclock1
  obtain ⟨hdate, hnumber⟩ := civilForm_ofDays hdays.1 hdays.2
  have hzone := cutZone_append_of_zoneForm (zoneForm_zoneChars hoffset)
    (hclock.cutZone (civilChars (CivilDate.ofDays (.ofInt (reading / microsPerDay))) ++ ['T']))
  simp only [List.append_assoc, List.cons_append, List.nil_append] at hzone
  exact ⟨_, ⟨_, _, _, hzone, cutAt_append (notMem_civilChars _) _, hdate.readCivil, hclock.readClock⟩, hnumber⟩

end Parts

/-! ### Instants that can be shown -/

/-- An instant that can be shown in a zone: the offset is one that a zone can show, and the reading of the clock there
and the midnight before it are within 64 bits. -/
structure Showable (instant : Int64) (offset : Option Int16) : Prop where
  offset_inRange : OffsetInRange offset
  le_midnight : -2 ^ 63 ≤ (instant.toInt + zoneShift offset) / microsPerDay * microsPerDay
  reading_lt : instant.toInt + zoneShift offset < 2 ^ 63

theorem midnight_le (reading : Int) : reading / microsPerDay * microsPerDay ≤ reading :=
  Int.ediv_mul_le reading (by decide)

theorem Showable.le_reading {instant : Int64} {offset : Option Int16} (h : Showable instant offset) :
    -2 ^ 63 ≤ instant.toInt + zoneShift offset := Int.le_trans h.le_midnight (midnight_le _)

/-- **An instant is read as it was written**, in the zone that it was written in. -/
theorem readDateTime_dateTimeChars {instant : Int64} {offset : Option Int16} (h : Showable instant offset) :
    readDateTime (dateTimeChars instant offset) = .ok (instant, offset) := by
  have hsum : (instant.toInt + zoneShift offset) / microsPerDay * microsPerDay +
      (instant.toInt + zoneShift offset) % microsPerDay = instant.toInt + zoneShift offset := Int.ediv_mul_add_emod ..
  have hmidnight := midnight_le (instant.toInt + zoneShift offset)
  have hlt := h.reading_lt
  obtain ⟨day, hparts, hnumber⟩ := exists_hasParts_dateTimeChars h.offset_inRange h.le_reading hlt
  rw [readDateTime_of_parts hparts, hnumber, hsum]
  refine ⟨by omega, ?_, ?_⟩
  · exact ⟨_, int64?_eq_some_iff.2 (Int64.toInt_ofInt_of_le h.le_midnight (by omega))⟩
  · exact ⟨_, int64?_eq_some_iff.2 (Int64.toInt_ofInt_of_le h.le_reading hlt)⟩

/-- **What was read can be shown.** -/
theorem showable_of_readDateTime {s : List Char} {instant : Int64} {offset : Option Int16}
    (h : readDateTime s = .ok (instant, offset)) : Showable instant offset := by
  obtain ⟨day, time, hparts⟩ := exists_hasParts_of_readDateTime h
  obtain ⟨hoffset, h0, h1⟩ := hparts.range
  obtain ⟨hinstant, ⟨midnight, hm⟩, ⟨reading, hr⟩⟩ := (readDateTime_of_parts hparts).1 h
  rw [int64?_eq_some_iff] at hm hr
  have hlocal : instant.toInt + zoneShift offset = day.dayNumber * microsPerDay + time := by omega
  have hmidnight : (day.dayNumber * microsPerDay + time) / microsPerDay = day.dayNumber := by
    rw [Int.add_comm, Int.add_mul_ediv_right _ _ (by decide), Int.ediv_eq_zero_of_lt h0 h1, Int.zero_add]
  refine ⟨hoffset, ?_, ?_⟩
  · rw [hlocal, hmidnight, ← hm]
    exact midnight.le_toInt
  · rw [hlocal, ← hr]
    exact reading.toInt_lt

/-! ### The first midnight -/

/-- The first midnight within 64 bits.  The range begins four hours before it. -/
def firstMidnight : Int := -106751991 * microsPerDay

theorem firstMidnight_le_iff {reading : Int} :
    firstMidnight ≤ reading ↔ -2 ^ 63 ≤ reading / microsPerDay * microsPerDay := by
  have hday : microsPerDay = 86400000000 := rfl
  rw [firstMidnight, hday]
  omega

theorem showable_iff {instant : Int64} {offset : Option Int16} (h : OffsetInRange offset) : Showable instant offset ↔
    firstMidnight ≤ instant.toInt + zoneShift offset ∧ instant.toInt + zoneShift offset < 2 ^ 63 := by
  rw [firstMidnight_le_iff]
  exact ⟨fun hs => ⟨hs.le_midnight, hs.reading_lt⟩, fun hs => ⟨h, hs.1, hs.2⟩⟩

/-- **A reading before the first midnight is written, but it is not read again**: its own midnight is out of range. -/
theorem readDateTime_dateTimeChars_of_lt {instant : Int64} {offset : Option Int16} (hoffset : OffsetInRange offset)
    (h0 : -2 ^ 63 ≤ instant.toInt + zoneShift offset) (h1 : instant.toInt + zoneShift offset < firstMidnight) :
    readDateTime (dateTimeChars instant offset) = .error (.outOfRange .year) := by
  have hfirst : firstMidnight < 2 ^ 63 := by decide
  obtain ⟨day, hparts, hnumber⟩ := exists_hasParts_dateTimeChars hoffset h0 (Int.lt_trans h1 hfirst)
  apply readDateTime_of_parts_of_lt hparts
  rw [hnumber]
  exact Int.not_le.1 (mt firstMidnight_le_iff.2 (Int.not_le.2 h1))

end Time
end ShapeBinding
