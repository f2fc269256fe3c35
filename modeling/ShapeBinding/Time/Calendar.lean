import ShapeBinding.Number.FixedWidth
/-!
# The calendar

Dates of the proleptic Gregorian calendar, in which year 0 comes before year 1, and the number of a day counted from
1970-01-01.  Both directions count years from the first of March, so that a leap day is the last day of its year: four
hundred such years are an era of 146097 days.  The arithmetic is that of 64-bit words and is not checked.
-/
namespace ShapeBinding

structure CivilDate where
  year : Int64
  month : UInt32
  day : UInt32
  deriving DecidableEq, Repr

namespace CivilDate

def isLeapYear (year : Int64) : Bool := (year % 4 == 0 && year % 100 != 0) || year % 400 == 0

def daysInMonth (year : Int64) (month : UInt32) : UInt32 :=
  if month = 4 ∨ month = 6 ∨ month = 9 ∨ month = 11 then 30
  else if month = 2 then if isLeapYear year then 29 else 28
  else 31

/-- A month of the year and a day of that month. -/
def Valid (d : CivilDate) : Prop :=
  (1 ≤ d.month ∧ d.month ≤ 12) ∧ 1 ≤ d.day ∧ d.day ≤ daysInMonth d.year d.month

instance (d : CivilDate) : Decidable d.Valid := inferInstanceAs (Decidable (_ ∧ _))

/-! ## Day numbers -/

/-- The days from the first of March to the first of a month, months counted from March. -/
def daysBeforeMonth (fromMarch : Int64) : Int64 := (153 * fromMarch + 2) / 5

/-- The days from 0000-03-01 to 1970-01-01. -/
def epochShift : Int64 := 719468

def toDays (d : CivilDate) : Int64 :=
  let y := if d.month ≤ 2 then d.year - 1 else d.year
  let yearOfEra := Word.emod y 400
  let fromMarch := (Word.ofUInt32 d.month + 9) % 12
  let dayOfYear := daysBeforeMonth fromMarch + Word.ofUInt32 d.day - 1
  let dayOfEra := yearOfEra * 365 + yearOfEra / 4 - yearOfEra / 100 + dayOfYear
  Word.ediv y 400 * 146097 + dayOfEra - epochShift

/-- The year of an era, counted from March, that a day of the era falls in: the leap days that have passed are taken off
the days. -/
def yearOfDay (dayOfEra : Int64) : Int64 :=
  (dayOfEra - dayOfEra / 1460 + dayOfEra / 36524 - dayOfEra / 146096) / 365

def ofDays (days : Int64) : CivilDate :=
  let z := days + epochShift
  let dayOfEra := Word.emod z 146097
  let yearOfEra := yearOfDay dayOfEra
  let dayOfYear := dayOfEra - (365 * yearOfEra + yearOfEra / 4 - yearOfEra / 100)
  let fromMarch := (5 * dayOfYear + 2) / 153
  let day := Word.low (dayOfYear - daysBeforeMonth fromMarch + 1)
  let month := Word.low (if fromMarch < 10 then fromMarch + 3 else fromMarch - 9)
  ⟨yearOfEra + Word.ediv z 146097 * 400 + (if month ≤ 2 then 1 else 0), month, day⟩

end CivilDate
end ShapeBinding
