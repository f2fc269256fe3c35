import ShapeBinding.Proofs.Accepted
import ShapeBinding.Proofs.Text.Numeral
import ShapeBinding.Proofs.Time.Calendar
import ShapeBinding.Time.Lexical
/-!
# What dates and times look like

The forms of a calendar date, of a clock and of a zone, with what each stands for.  A date is read just from its forms
(`Time.readCivil_eq_ok_iff`), and so is a clock (`Time.readClock_eq_ok_iff`).  The zone that is cut off an end is one
(`Time.exists_zoneForm_of_cutZone`), and it is cut off where it was put (`Time.cutZone_append_of_zoneForm`), because no
date and no clock ends like a zone (`Time.CivilForm.cutZone`, `Time.ClockForm.cutZone`).
-/
namespace ShapeBinding
namespace Time

/-! ## Fields of two digits -/

def TwoDigits (s : List Char) : Prop := s.length = 2 ∧ ∀ c ∈ s, c.isDigit = true

namespace TwoDigits

variable {s : List Char}

theorem isNumeral (h : TwoDigits s) : isNumeral s = true :=
  isNumeral_iff.2 ⟨List.ne_nil_of_length_pos (by rw [h.1]; decide), h.2⟩

theorem utf8Length (h : TwoDigits s) : utf8Length s = 2 := (utf8Length_of_forall_isDigit h.2).trans h.1

theorem takeBytes (h : TwoDigits s) (rest : List Char) : takeBytes 2 (s ++ rest) = some (s, rest) := by
  have := takeBytes_append s rest
  rwa [h.utf8Length] at this

theorem of_bytes (hbytes : ShapeBinding.utf8Length s = 2) (hs : ShapeBinding.isNumeral s = true) : TwoDigits s := by
  have hdigits := (isNumeral_iff.1 hs).2
  exact ⟨by rw [← utf8Length_of_forall_isDigit hdigits, hbytes], hdigits⟩

theorem numeral_lt (h : TwoDigits s) : numeral s < 10 ^ 2 := by
  rw [← h.1]
  exact ShapeBinding.numeral_lt h.2

theorem of_padded {n : Nat} (hn : n < 10 ^ 2) : TwoDigits (padded 2 n) :=
  ⟨length_padded (by decide) hn, fun _ => isDigit_of_mem_padded⟩

end TwoDigits

theorem numeral_lt_of_length_le {s : List Char} {n : Nat} (hs : isNumeral s = true) (hlength : s.length ≤ n) :
    numeral s < 10 ^ n :=
  Nat.lt_of_lt_of_le (numeral_lt (isNumeral_iff.1 hs).2) (Nat.pow_le_pow_right (by decide) hlength)

theorem readNumeral_eq_ok_iff {part : Part} {s : List Char} {n : Nat} :
    readNumeral part s = .ok n ↔ isNumeral s = true ∧ n = numeral s := by
  unfold readNumeral
  split
  · rename_i h
    simp only [h, true_and, Except.ok.injEq, eq_comm]
  · rename_i h
    simp only [h, false_and, reduceCtorEq]

/-! ## Dates -/

/-- **The forms of a date**: a minus sign for a year before the year 0, four to nine digits of the year, two of the
month and two of the day; the day exists. -/
def CivilForm (s : List Char) (date : CivilDate) : Prop :=
  ∃ (negative : Bool) (year month day : List Char),
    s = (if negative then ['-'] else []) ++ (year ++ '-' :: (month ++ '-' :: day)) ∧
      (isNumeral year = true ∧ 4 ≤ year.length ∧ year.length ≤ 9) ∧ TwoDigits month ∧ TwoDigits day ∧
      date.year.toInt = (if negative then -(numeral year : Int) else numeral year) ∧
      date.month.toNat = numeral month ∧ date.day.toNat = numeral day ∧ date.Valid

/-- A date of nine digits at most is held in words as it is. -/
theorem eq_civilDate_iff {date : CivilDate} {negative : Bool} {y m d : Nat} (hy : y < 10 ^ 9) (hm : m < 10 ^ 2)
    (hd : d < 10 ^ 2) : date = ⟨if negative then -.ofNat y else .ofNat y, .ofNat m, .ofNat d⟩ ↔
      date.year.toInt = (if negative then -(y : Int) else y) ∧ date.month.toNat = m ∧ date.day.toNat = d := by
  have hyear : (if negative then -Int64.ofNat y else .ofNat y).toInt = if negative then -(y : Int) else y := by
    cases negative
    · exact Int64.toInt_ofNat_of_lt (by omega)
    · exact Int64.toInt_neg_ofNat_of_le (by omega)
  have hmonth : (UInt32.ofNat m).toNat = m := UInt32.toNat_ofNat_of_lt' (Nat.lt_trans hm (by decide))
  have hday : (UInt32.ofNat d).toNat = d := UInt32.toNat_ofNat_of_lt' (Nat.lt_trans hd (by decide))
  obtain ⟨year, month, day⟩ := date
  rw [CivilDate.mk.injEq, ← Int64.toInt_inj, ← UInt32.toNat_inj, ← UInt32.toNat_inj, hyear, hmonth, hday]

theorem valid_iff_not_outOfRange {date : CivilDate} : date.Valid ↔ ¬ (date.month < 1 ∨ 12 < date.month) ∧
    ¬ (date.day = 0 ∨ CivilDate.daysInMonth date.year date.month < date.day) := by
  have h1 : (1 : UInt32).toNat = 1 := rfl
  have h12 : (12 : UInt32).toNat = 12 := rfl
  have h0 : (0 : UInt32).toNat = 0 := rfl
  simp only [CivilDate.valid_iff, UInt32.lt_iff_toNat_lt, ← UInt32.toNat_inj, h1, h12, h0]
  omega

theorem splitMinus_append_of_isNumeral {s : List Char} (h : isNumeral s = true) (t : List Char) :
    splitMinus (s ++ t) = (false, s ++ t) := by
  obtain ⟨hne, hdigits⟩ := isNumeral_iff.1 h
  cases s with
  | nil => exact absurd rfl hne
  | cons c s =>
    have hc := hdigits c (List.mem_cons_self ..)
    rw [List.cons_append]
    unfold splitMinus
    split
    · rename_i heq
      cases heq
      exact absurd hc (by decide)
    · rfl

theorem eq_append_of_splitMinus {s body : List Char} {negative : Bool} (h : splitMinus s = (negative, body)) :
    s = (if negative then ['-'] else []) ++ body := by
  unfold splitMinus at h
  split at h <;> cases h <;> rfl

theorem CivilForm.readCivil {s : List Char} {date : CivilDate} (h : CivilForm s date) : readCivil s = .ok date := by
  obtain ⟨negative, y, m, d, rfl, ⟨hy, hy4, hy9⟩, hm, hd, hyear, hmonth, hday, hvalid⟩ := h
  have hsign : splitMinus ((if negative then ['-'] else []) ++ (y ++ '-' :: (m ++ '-' :: d))) =
      (negative, y ++ '-' :: (m ++ '-' :: d)) := by
    cases negative
    · exact splitMinus_append_of_isNumeral hy _
    · rfl
  have hdash : ∀ {s}, isNumeral s = true → '-' ∉ s := fun h =>
    notMem_of_forall_isDigit (isNumeral_iff.1 h).2 (by decide)
  have hlength : utf8Length y = y.length := utf8Length_of_forall_isDigit (isNumeral_iff.1 hy).2
  have hdate := (eq_civilDate_iff (numeral_lt_of_length_le hy hy9) hm.numeral_lt hd.numeral_lt).2 ⟨hyear, hmonth, hday⟩
  obtain ⟨hmrange, hdrange⟩ := valid_iff_not_outOfRange.1 hvalid
  simp only [Time.readCivil, hsign, cutAt_append (hdash hy), cutAt_append (hdash hm.isNumeral), guard_eq_ok_iff,
    readNumeral, if_pos hy, if_pos hm.isNumeral, if_pos hd.isNumeral, hlength, hm.utf8Length, hd.utf8Length]
  refine ⟨by omega, by omega, ?_⟩
  rw [hdate] at hmrange hdrange ⊢
  exact guard_eq_ok_iff.2 ⟨hmrange, guard_eq_ok_iff.2 ⟨hdrange, rfl⟩⟩

theorem civilForm_of_readCivil {s : List Char} {date : CivilDate} (h : readCivil s = .ok date) : CivilForm s date := by
  unfold readCivil at h
  obtain ⟨negative, body, hsign⟩ : ∃ negative body, splitMinus s = (negative, body) := ⟨_, _, rfl⟩
  simp only [hsign] at h
  split at h
  · rename_i y rest hy
    split at h
    · rename_i m d hm
      obtain ⟨hbytes, h⟩ := guard_eq_ok_iff.1 h
      obtain ⟨hlong, h⟩ := guard_eq_ok_iff.1 h
      obtain ⟨year, hyear, h⟩ := bind_eq_ok_iff.1 h
      obtain ⟨month, hmonth, h⟩ := bind_eq_ok_iff.1 h
      obtain ⟨day, hday, h⟩ := bind_eq_ok_iff.1 h
      obtain ⟨hmrange, h⟩ := guard_eq_ok_iff.1 h
      obtain ⟨hdrange, h⟩ := guard_eq_ok_iff.1 h
      obtain ⟨hynum, rfl⟩ := readNumeral_eq_ok_iff.1 hyear
      obtain ⟨hmnum, rfl⟩ := readNumeral_eq_ok_iff.1 hmonth
      obtain ⟨hdnum, rfl⟩ := readNumeral_eq_ok_iff.1 hday
      have hylength := utf8Length_of_forall_isDigit (isNumeral_iff.1 hynum).2
      have hm2 : TwoDigits m := .of_bytes (by omega) hmnum
      have hd2 : TwoDigits d := .of_bytes (by omega) hdnum
      have hdate := (Except.ok.inj h).symm
      obtain ⟨hyear, hmonth, hday⟩ :=
        (eq_civilDate_iff (numeral_lt_of_length_le hynum (by omega)) hm2.numeral_lt hd2.numeral_lt).1 hdate
      refine ⟨negative, y, m, d, ?_, ⟨hynum, by omega, by omega⟩, hm2, hd2, hyear, hmonth, hday, ?_⟩
      · rw [eq_append_of_splitMinus hsign, (cutAt_eq_some_iff.1 hy).1, (cutAt_eq_some_iff.1 hm).1]
      · rw [hdate]
        exact valid_iff_not_outOfRange.2 ⟨hmrange, hdrange⟩
    · cases h
  · cases h

/-- **A date is read just from its forms.** -/
theorem readCivil_eq_ok_iff {s : List Char} {date : CivilDate} : readCivil s = .ok date ↔ CivilForm s date :=
  ⟨civilForm_of_readCivil, CivilForm.readCivil⟩

/-- **The day number of a form is the exact count**: nine digits of a year are far from where the count wraps. -/
theorem CivilForm.toInt_toDays {s : List Char} {date : CivilDate} (h : CivilForm s date) :
    date.toDays.toInt = date.dayNumber := by
  obtain ⟨negative, y, -, -, -, ⟨hy, -, hy9⟩, -, -, hyear, -, -, hvalid⟩ := h
  have hdigits := numeral_lt_of_length_le hy hy9
  refine CivilDate.toInt_toDays (CivilDate.countable_of_natAbs_le hvalid ?_)
  rw [hyear]
  split <;> omega

/-! ## Clocks -/

/-- What follows the seconds, and the whole microseconds that it stands for: nothing, or a point and at least one digit.
The value of the digits is cut down to microseconds. -/
inductive FractionForm : List Char → Nat → Prop
  | absent : FractionForm [] 0
  | present {ds : List Char} : isNumeral ds = true → FractionForm ('.' :: ds) (numeral ds * 10 ^ 6 / 10 ^ ds.length)

/-- **The forms of a clock**: two digits each of the hours, the minutes and the seconds, and a fraction of a second. -/
def ClockForm (s : List Char) (micros : Int) : Prop :=
  ∃ (hours minutes seconds fraction : List Char) (rest : Nat),
    s = hours ++ ':' :: (minutes ++ ':' :: (seconds ++ fraction)) ∧
      (TwoDigits hours ∧ numeral hours ≤ 23) ∧ (TwoDigits minutes ∧ numeral minutes ≤ 59) ∧
      (TwoDigits seconds ∧ numeral seconds ≤ 59) ∧ FractionForm fraction rest ∧
      micros = numeral hours * microsPerHour + numeral minutes * microsPerMinute +
        numeral seconds * microsPerSecond + rest

theorem clockParts?_eq_some_iff {s h m sec : List Char} : clockParts? s = some (h, m, sec) ↔
    s = h ++ ':' :: (m ++ ':' :: sec) ∧ utf8Length h = 2 ∧ utf8Length m = 2 ∧ utf8Length sec = 2 := by
  constructor
  · intro heq
    unfold clockParts? at heq
    split at heq
    · rename_i hours rest hh
      split at heq
      · rename_i minutes seconds hm
        split at heq
        · rename_i hs
          cases heq
          obtain ⟨rfl, hhours⟩ := eq_append_of_takeBytes hh
          obtain ⟨rfl, hminutes⟩ := eq_append_of_takeBytes hm
          exact ⟨rfl, hhours, hminutes, hs⟩
        · cases heq
      · cases heq
    · cases heq
  · rintro ⟨rfl, hh, hm, hs⟩
    have hhours := takeBytes_append h (':' :: (m ++ ':' :: sec))
    have hminutes := takeBytes_append m (':' :: sec)
    rw [hh] at hhours
    rw [hm] at hminutes
    simp only [clockParts?, hhours, hminutes, hs, if_true]

/-- The first six places behind the point hold the whole microseconds of a fraction. -/
theorem numeral_take_six {ds : List Char} (h : ∀ c ∈ ds, c.isDigit = true) :
    numeral ((ds ++ List.replicate 6 '0').take 6) = numeral ds * 10 ^ 6 / 10 ^ ds.length := by
  have hdigits : ∀ c ∈ (ds ++ List.replicate 6 '0').drop 6, c.isDigit = true := fun c hc => by
    rcases List.mem_append.1 (List.mem_of_mem_drop hc) with hc | hc
    · exact h c hc
    · rw [(List.mem_replicate.1 hc).2]
      decide
  have hlength : ((ds ++ List.replicate 6 '0').drop 6).length = ds.length := by
    rw [List.length_drop, List.length_append, List.length_replicate, Nat.add_sub_cancel]
  rw [← numeral_append_zeros, ← numeral_append_div hdigits, List.take_append_drop, hlength]

theorem readFraction_eq_ok_iff {ds : List Char} {n : Nat} :
    readFraction ds = .ok n ↔ isNumeral ds = true ∧ n = numeral ds * 10 ^ 6 / 10 ^ ds.length := by
  unfold readFraction
  by_cases h : isNumeral ds = true
  · rw [if_pos h, numeral_take_six (isNumeral_iff.1 h).2]
    simp only [h, true_and, Except.ok.injEq, eq_comm]
  · rw [if_neg h]
    simp only [h, false_and, reduceCtorEq]

theorem notMem_whole {h m s : List Char} (hh : TwoDigits h) (hm : TwoDigits m) (hs : TwoDigits s) {mark : Char}
    (hdigit : mark.isDigit = false) (hcolon : mark ≠ ':') : mark ∉ h ++ ':' :: (m ++ ':' :: s) := by
  have hfield : ∀ {s}, TwoDigits s → mark ∉ s := fun hs => notMem_of_forall_isDigit hs.2 hdigit
  simp only [List.mem_append, List.mem_cons, hfield hh, hfield hm, hfield hs, hcolon, or_self, not_false_eq_true]

theorem ClockForm.readClock {s : List Char} {micros : Int} (h : ClockForm s micros) : readClock s = .ok micros := by
  obtain ⟨h, m, sec, fraction, rest, rfl, ⟨hh, hh23⟩, ⟨hm, hm59⟩, ⟨hs, hs59⟩, hfraction, rfl⟩ := h
  have hdot : '.' ∉ h ++ ':' :: (m ++ ':' :: sec) := notMem_whole hh hm hs (by decide) (by decide)
  have hparts := clockParts?_eq_some_iff.2 ⟨rfl, hh.utf8Length, hm.utf8Length, hs.utf8Length⟩
  have hassoc : h ++ ':' :: (m ++ ':' :: (sec ++ fraction)) = (h ++ ':' :: (m ++ ':' :: sec)) ++ fraction := by simp
  rw [hassoc]
  cases hfraction with
  | absent =>
    rw [List.append_nil]
    simp only [Time.readClock, cutAt_eq_none_iff.2 hdot, hparts, readNumeral, if_pos hh.isNumeral,
      if_pos hm.isNumeral, if_pos hs.isNumeral]
    exact guard_eq_ok_iff.2 ⟨by omega, guard_eq_ok_iff.2 ⟨by omega, guard_eq_ok_iff.2 ⟨by omega, rfl⟩⟩⟩
  | @present ds hds =>
    simp only [Time.readClock, cutAt_append hdot, hparts, readNumeral, if_pos hh.isNumeral,
      if_pos hm.isNumeral, if_pos hs.isNumeral, readFraction_eq_ok_iff.2 ⟨hds, rfl⟩]
    exact guard_eq_ok_iff.2 ⟨by omega, guard_eq_ok_iff.2 ⟨by omega, guard_eq_ok_iff.2 ⟨by omega, rfl⟩⟩⟩

/-- A clock is read in two parts, at the point if there is one. -/
theorem clockForm_of_readClock {s : List Char} {micros : Int} (h : readClock s = .ok micros) : ClockForm s micros := by
  unfold readClock at h
  dsimp only at h
  split at h
  · rename_i hours minutes seconds hparts
    obtain ⟨hh, hhours, h⟩ := bind_eq_ok_iff.1 h
    obtain ⟨mm, hminutes, h⟩ := bind_eq_ok_iff.1 h
    obtain ⟨ss, hseconds, h⟩ := bind_eq_ok_iff.1 h
    obtain ⟨hh23, h⟩ := guard_eq_ok_iff.1 h
    obtain ⟨hm59, h⟩ := guard_eq_ok_iff.1 h
    obtain ⟨hs59, h⟩ := guard_eq_ok_iff.1 h
    obtain ⟨hhnum, rfl⟩ := readNumeral_eq_ok_iff.1 hhours
    obtain ⟨hmnum, rfl⟩ := readNumeral_eq_ok_iff.1 hminutes
    obtain ⟨hsnum, rfl⟩ := readNumeral_eq_ok_iff.1 hseconds
    obtain ⟨hwhole, hh2, hm2, hs2⟩ := clockParts?_eq_some_iff.1 hparts
    have hfields : (TwoDigits hours ∧ numeral hours ≤ 23) ∧ (TwoDigits minutes ∧ numeral minutes ≤ 59) ∧
        TwoDigits seconds ∧ numeral seconds ≤ 59 :=
      ⟨⟨.of_bytes hh2 hhnum, by omega⟩, ⟨.of_bytes hm2 hmnum, by omega⟩, .of_bytes hs2 hsnum, by omega⟩
    obtain ⟨hhours, hminutes, hseconds⟩ := hfields
    cases hcut : cutAt '.' s with
    | none =>
      rw [hcut] at hwhole h
      exact ⟨hours, minutes, seconds, [], 0, by simpa using hwhole, hhours, hminutes, hseconds, .absent,
        (Except.ok.inj h).symm⟩
    | some parts =>
      rw [hcut] at hwhole h
      obtain ⟨rest, hrest, h⟩ := bind_eq_ok_iff.1 h
      obtain ⟨hds, rfl⟩ := readFraction_eq_ok_iff.1 hrest
      have hs : s = hours ++ ':' :: (minutes ++ ':' :: (seconds ++ '.' :: parts.2)) := by
        rw [(cutAt_eq_some_iff.1 hcut).1]
        simp [show parts.1 = _ from hwhole]
      exact ⟨hours, minutes, seconds, _, _, hs, hhours, hminutes, hseconds, .present hds, (Except.ok.inj h).symm⟩
  · cases h

/-- **A clock is read just from its forms.** -/
theorem readClock_eq_ok_iff {s : List Char} {micros : Int} : readClock s = .ok micros ↔ ClockForm s micros :=
  ⟨clockForm_of_readClock, ClockForm.readClock⟩

theorem FractionForm.lt {s : List Char} {rest : Nat} (h : FractionForm s rest) : rest < 10 ^ 6 := by
  cases h with
  | absent => decide
  | @present ds hds =>
    refine Nat.div_lt_of_lt_mul ?_
    exact Nat.mul_lt_mul_of_pos_right (numeral_lt (isNumeral_iff.1 hds).2) (by decide)

/-- **A clock shows a time of day.** -/
theorem ClockForm.range {s : List Char} {micros : Int} (h : ClockForm s micros) : 0 ≤ micros ∧ micros < microsPerDay := by
  obtain ⟨hours, minutes, seconds, fraction, rest, -, ⟨-, hh⟩, ⟨-, hm⟩, ⟨-, hs⟩, hfraction, rfl⟩ := h
  have hday : microsPerDay = 86400000000 := rfl
  have hhour : microsPerHour = 3600000000 := rfl
  have hminute : microsPerMinute = 60000000 := rfl
  have hsecond : microsPerSecond = 1000000 := rfl
  have hrest := hfraction.lt
  rw [hday, hhour, hminute, hsecond]
  omega

/-! ## Zones -/

/-- **The forms of a zone**, and its offset in minutes: nothing, `Z`, or a sign with two digits each of the hours and the
minutes, fourteen hours at most. -/
inductive ZoneForm : List Char → Option Int16 → Prop
  | absent : ZoneForm [] none
  | utc : ZoneForm ['Z'] (some 0)
  | signed {negative : Bool} {hours minutes : List Char} {offset : Int16} :
      TwoDigits hours → TwoDigits minutes → numeral minutes ≤ 59 → numeral hours * 60 + numeral minutes ≤ maxOffset →
      offset.toInt = (if negative then -1 else 1) * (numeral hours * 60 + numeral minutes : Nat) →
      ZoneForm ((if negative then '-' else '+') :: (hours ++ ':' :: minutes)) (some offset)

theorem zoneParts?_eq_some {zone hours minutes : List Char} {negative : Bool}
    (h : zoneParts? zone = some (negative, hours, minutes)) :
    zone = (if negative then '-' else '+') :: (hours ++ ':' :: minutes) ∧ utf8Length hours = 2 := by
  unfold zoneParts? at h
  split at h
  · rename_i c s
    split at h
    · rename_i hsign
      split at h
      · rename_i hparts
        cases h
        obtain ⟨rfl, hbytes⟩ := eq_append_of_takeBytes hparts
        rcases hsign with rfl | rfl <;> exact ⟨rfl, hbytes⟩
      · cases h
    · cases h
  · cases h

/-- **What is cut off the end is a zone.** -/
theorem exists_zoneForm_of_cutZone {s body : List Char} {offset : Option Int16} (h : cutZone s = .ok (body, offset)) :
    ∃ zone, s = body ++ zone ∧ ZoneForm zone offset := by
  have hmax : maxOffset = 840 := rfl
  unfold cutZone at h
  by_cases hz : s.getLast? = some 'Z'
  · rw [if_pos hz] at h
    cases h
    exact ⟨['Z'], (List.dropLast_append_getLast? _ hz).symm, .utc⟩
  · rw [if_neg hz] at h
    split at h
    · cases h
      exact ⟨[], (List.append_nil _).symm, .absent⟩
    · rename_i front zone hcut
      split at h
      · cases h
        exact ⟨[], (List.append_nil _).symm, .absent⟩
      · rename_i negative hours minutes hparts
        dsimp only at h
        split at h
        · rename_i hcond
          cases h
          simp only [Bool.and_eq_true, decide_eq_true_eq] at hcond
          obtain ⟨⟨⟨hhnum, hmnum⟩, hm59⟩, htotal⟩ := hcond
          obtain ⟨rfl, hbytes⟩ := eq_append_of_cutLastBytes hcut
          obtain ⟨rfl, hhours⟩ := zoneParts?_eq_some hparts
          have hsign : (if negative then '-' else '+').utf8Size = 1 := by cases negative <;> rfl
          have hcolon : (':').utf8Size = 1 := rfl
          rw [utf8Length_cons, utf8Length_append, utf8Length_cons, hsign, hcolon] at hbytes
          refine ⟨_, rfl, .signed (.of_bytes hhours hhnum) (.of_bytes (by omega) hmnum) hm59 htotal ?_⟩
          generalize numeral hours * 60 + numeral minutes = total at htotal
          rw [Int16.toInt_ofInt_of_le (by split <;> omega) (by split <;> omega)]
          cases negative
          · rw [if_neg (by decide), if_neg (by decide), Int.one_mul]
          · rw [if_pos rfl, if_pos rfl, Int.neg_one_mul]
        · cases h

theorem getLast?_append_ne_zulu {t : List Char} (ht : TwoDigits t) (s : List Char) :
    (s ++ t).getLast? ≠ some 'Z' := by
  intro h
  rw [List.getLast?_append_of_ne_nil _ (isNumeral_iff.1 ht.isNumeral).1] at h
  exact absurd (ht.2 _ (List.mem_of_getLast? h)) (by decide)

/-- Two fields of two digits with a sign before and a mark between them are six bytes. -/
theorem cutLastBytes_fields {h m : List Char} (hh : TwoDigits h) (hm : TwoDigits m) {sign mark : Char}
    (hsign : sign.utf8Size = 1) (hmark : mark.utf8Size = 1) (s : List Char) :
    cutLastBytes 6 (s ++ sign :: (h ++ mark :: m)) = some (s, sign :: (h ++ mark :: m)) := by
  have hbytes : utf8Length (sign :: (h ++ mark :: m)) = 6 := by
    rw [utf8Length_cons, utf8Length_append, utf8Length_cons, hh.utf8Length, hm.utf8Length, hsign, hmark]
  have := cutLastBytes_append s (sign :: (h ++ mark :: m))
  rwa [hbytes] at this

/-- **A zone is cut off the end where it was put**, if nothing would be cut off what stands before it. -/
theorem cutZone_append_of_zoneForm {s zone : List Char} {offset : Option Int16} (hzone : ZoneForm zone offset)
    (hs : cutZone s = .ok (s, none)) : cutZone (s ++ zone) = .ok (s, offset) := by
  cases hzone with
  | absent => rwa [List.append_nil]
  | utc => rw [cutZone, if_pos (List.getLast?_concat ..), List.dropLast_concat]
  | @signed negative hours minutes offset hh hm hm59 htotal hoffset =>
    have hsign : ((if negative then '-' else '+') = '+' ∨ (if negative then '-' else '+') = '-') ∧
        (if negative then '-' else '+').utf8Size = 1 ∧ ((if negative then '-' else '+') == '-') = negative := by
      cases negative <;> decide
    have hlast : (s ++ (if negative then '-' else '+') :: (hours ++ ':' :: minutes)).getLast? ≠ some 'Z' := by
      have := getLast?_append_ne_zulu hm (s ++ (if negative then '-' else '+') :: (hours ++ [':']))
      simpa using this
    have hparts : zoneParts? ((if negative then '-' else '+') :: (hours ++ ':' :: minutes)) =
        some (negative, hours, minutes) := by
      simp only [zoneParts?, if_pos hsign.1, hh.takeBytes, hsign.2.2]
    have hcut : cutLastBytes 6 (s ++ (if negative then '-' else '+') :: (hours ++ ':' :: minutes)) = _ :=
      cutLastBytes_fields hh hm hsign.2.1 rfl s
    simp only [cutZone, if_neg hlast, hcut, hparts, hh.isNumeral, hm.isNumeral, hm59, htotal, decide_true,
      Bool.and_self, if_true]
    congr 3
    rw [← Int16.ofInt_toInt offset, hoffset]
    cases negative
    · rw [if_neg (by decide), if_neg (by decide), Int.one_mul]
    · rw [if_pos rfl, if_pos rfl, Int.neg_one_mul]

/-- **A date does not end like a zone**: what would be one has a dash between its fields. -/
theorem CivilForm.cutZone {s : List Char} {date : CivilDate} (h : CivilForm s date) : cutZone s = .ok (s, none) := by
  obtain ⟨negative, y, m, d, rfl, -, hm, hd, -⟩ := h
  rw [← List.append_assoc]
  generalize (if negative then ['-'] else []) ++ y = u
  have hlast : (u ++ '-' :: (m ++ '-' :: d)).getLast? ≠ some 'Z' := by
    have := getLast?_append_ne_zulu hd (u ++ '-' :: (m ++ ['-']))
    simpa using this
  have hparts : zoneParts? ('-' :: (m ++ '-' :: d)) = none := by simp [zoneParts?, hm.takeBytes]
  have hcut : cutLastBytes 6 (u ++ '-' :: (m ++ '-' :: d)) = _ := cutLastBytes_fields hm hd rfl rfl u
  simp only [Time.cutZone, if_neg hlast, hcut, hparts]

theorem cutZone_of_plain {u v : List Char} (hlength : 6 ≤ v.length) (hplain : ∀ c ∈ v, c ≠ '+' ∧ c ≠ '-' ∧ c ≠ 'Z') :
    cutZone (u ++ v) = .ok (u ++ v, none) := by
  have hne : v ≠ [] := fun h => by
    rw [h] at hlength
    exact absurd hlength (by decide)
  have hlast : (u ++ v).getLast? ≠ some 'Z' := fun h => by
    rw [List.getLast?_append_of_ne_nil _ hne] at h
    exact (hplain 'Z' (List.mem_of_getLast? h)).2.2 rfl
  rw [cutZone, if_neg hlast]
  split
  · rfl
  · rename_i body zone hcut
    obtain ⟨happend, hbytes⟩ := eq_append_of_cutLastBytes hcut
    have hzone : zoneParts? zone = none := by
      have hsuffix : zone <:+ v := by
        have := length_le_utf8Length zone
        exact List.suffix_of_suffix_length_le ⟨body, happend.symm⟩ (List.suffix_append u v) (by omega)
      cases zone with
      | nil => rfl
      | cons c zone =>
        have hc := hplain c (hsuffix.subset (List.mem_cons_self ..))
        rw [zoneParts?, if_neg fun h => h.elim hc.1 hc.2.1]
    rw [hzone]

/-- **A clock does not end like a zone**, whatever stands before it: there is no sign and no `Z` in it. -/
theorem ClockForm.cutZone {s : List Char} {micros : Int} (h : ClockForm s micros) (u : List Char) :
    cutZone (u ++ s) = .ok (u ++ s, none) := by
  obtain ⟨h, m, sec, fraction, rest, rfl, ⟨hh, -⟩, ⟨hm, -⟩, ⟨hs, -⟩, hfraction, -⟩ := h
  have hmarks : ∀ {mark : Char}, mark.isDigit = false → mark ≠ ':' → mark ≠ '.' →
      mark ∉ h ++ ':' :: (m ++ ':' :: (sec ++ fraction)) := fun {mark} hdigit hcolon hdot => by
    have hwhole := notMem_whole hh hm hs hdigit hcolon
    have hrest : mark ∉ fraction := by
      cases hfraction with
      | absent => exact List.not_mem_nil
      | present hds =>
        rw [List.mem_cons, not_or]
        exact ⟨hdot, notMem_of_forall_isDigit (isNumeral_iff.1 hds).2 hdigit⟩
    simp only [List.mem_append, List.mem_cons] at hwhole ⊢
    tauto
  apply cutZone_of_plain
  · simp only [List.length_append, List.length_cons, hh.1, hm.1, hs.1]
    omega
  · refine fun c hc => ⟨?_, ?_, ?_⟩ <;> rintro rfl <;> exact hmarks (by decide) (by decide) (by decide) hc

/-! ## Dates and times of day with zones -/

/-- **The forms of a date with a zone**, its day number and the offset. -/
def DateForm (s : List Char) (days : Int32) (offset : Option Int16) : Prop :=
  ∃ body zone date, s = body ++ zone ∧ CivilForm body date ∧ ZoneForm zone offset ∧ days.toInt = date.dayNumber

/-- **The forms of a time of day with a zone**, its microseconds since midnight and the offset. -/
def TimeForm (s : List Char) (micros : Int64) (offset : Option Int16) : Prop :=
  ∃ body zone, s = body ++ zone ∧ ClockForm body micros.toInt ∧ ZoneForm zone offset

theorem readDate_eq_ok_iff {s : List Char} {days : Int32} {offset : Option Int16} :
    readDate s = .ok (days, offset) ↔ DateForm s days offset := by
  constructor
  · intro h
    obtain ⟨⟨body, zone⟩, hzone, h⟩ := bind_eq_ok_iff.1 h
    obtain ⟨date, hdate, h⟩ := bind_eq_ok_iff.1 h
    split at h
    · rename_i days' hdays
      cases h
      obtain ⟨zone, rfl, hform⟩ := exists_zoneForm_of_cutZone hzone
      have hcivil := readCivil_eq_ok_iff.1 hdate
      rw [int32?_eq_some_iff, hcivil.toInt_toDays] at hdays
      exact ⟨body, zone, date, rfl, hcivil, hform, hdays⟩
    · cases h
  · rintro ⟨body, zone, date, rfl, hdate, hzone, hdays⟩
    refine bind_eq_ok_iff.2 ⟨_, cutZone_append_of_zoneForm hzone hdate.cutZone, bind_eq_ok_iff.2 ⟨_, hdate.readCivil, ?_⟩⟩
    rw [hdate.toInt_toDays, int32?_eq_some_iff.2 hdays]

theorem readTime_eq_ok_iff {s : List Char} {micros : Int64} {offset : Option Int16} :
    readTime s = .ok (micros, offset) ↔ TimeForm s micros offset := by
  constructor
  · intro h
    obtain ⟨⟨body, zone⟩, hzone, h⟩ := bind_eq_ok_iff.1 h
    obtain ⟨n, hn, h⟩ := bind_eq_ok_iff.1 h
    cases h
    obtain ⟨zone, rfl, hform⟩ := exists_zoneForm_of_cutZone hzone
    have hclock := readClock_eq_ok_iff.1 hn
    have hday : microsPerDay = 86400000000 := rfl
    have hrange := hclock.range
    have hword : (Int64.ofInt n).toInt = n := Int64.toInt_ofInt_of_le (by omega) (by omega)
    exact ⟨body, zone, rfl, by rwa [hword], hform⟩
  · rintro ⟨body, zone, rfl, hclock, hzone⟩
    have hbody := hclock.cutZone []
    rw [List.nil_append] at hbody
    refine bind_eq_ok_iff.2 ⟨_, cutZone_append_of_zoneForm hzone hbody, bind_eq_ok_iff.2 ⟨_, hclock.readClock, ?_⟩⟩
    rw [Int64.ofInt_toInt]

/-- **Dates and times of day are read just from their forms**, with the day number, the microseconds and the offset that
the form stands for. -/
theorem readDate_and_readTime_exact :
    (∀ s days offset, readDate s = .ok (days, offset) ↔ DateForm s days offset) ∧
      ∀ s micros offset, readTime s = .ok (micros, offset) ↔ TimeForm s micros offset :=
  ⟨fun _ _ _ => readDate_eq_ok_iff, fun _ _ _ => readTime_eq_ok_iff⟩

example : readTime "23:59:59.9999999+05:30".toList = .ok (86399999999, some 330) := by decide +kernel

end Time
end ShapeBinding
