import ShapeBinding.Number.FixedWidth
import ShapeBinding.Text.Numeral
import ShapeBinding.Text.Quoted
import ShapeBinding.Time.Calendar
/-!
# Lexical forms of dates and times

Readers and writers of `xsd:date`, `xsd:time` and `xsd:dateTime`.  A date is a day number, a time the microseconds since
midnight, and a date with a time the microseconds since 1970-01-01T00:00:00, in UTC when the form has a zone and as the
clock shows them when it has none.  A zone is an offset in minutes of at most fourteen hours; where it is absent it stays
absent.  A reader names the first part that is malformed or out of range.
-/
namespace ShapeBinding

namespace Time

inductive Part where
  | date
  | time
  | dateTime
  | year
  | month
  | day
  | hours
  | minutes
  | seconds
  | fraction
  deriving DecidableEq, Repr

def Part.text : Part → String
  | date => "date"
  | time => "time"
  | dateTime => "dateTime"
  | year => "year"
  | month => "month"
  | day => "day"
  | hours => "hours"
  | minutes => "minutes"
  | seconds => "seconds"
  | fraction => "fractional seconds"

inductive ReadError where
  | malformed (part : Part)
  | outOfRange (part : Part)
  | badZone (zone : String)
  deriving DecidableEq, Repr

def ReadError.message : ReadError → String
  | malformed part => "malformed " ++ part.text
  | outOfRange part => part.text ++ " out of range"
  | badZone zone => "invalid timezone offset " ++ quoted zone

def readNumeral (part : Part) (s : List Char) : Except ReadError Nat :=
  if isNumeral s then .ok (numeral s) else .error (.malformed part)

/-! ## Zones -/

def microsPerSecond : Int := 1000000

def microsPerMinute : Int := 60 * microsPerSecond

def microsPerHour : Int := 60 * microsPerMinute

def microsPerDay : Int := 24 * microsPerHour

/-- The largest offset either way, in minutes. -/
def maxOffset : Nat := 14 * 60

/-- The hours and minutes of a zone: a sign, two bytes, a colon and two bytes. -/
def zoneParts? : List Char → Option (Bool × List Char × List Char)
  | c :: s =>
    if c = '+' ∨ c = '-' then
      match takeBytes 2 s with
      | some (hours, ':' :: minutes) => some (c == '-', hours, minutes)
      | _ => none
    else none
  | [] => none

/-- Cuts a zone off the end of a form: `Z`, or a sign with hours and minutes.  An end that looks like a zone but is none
is an error; any other end is left alone. -/
def cutZone (s : List Char) : Except ReadError (List Char × Option Int16) :=
  if s.getLast? = some 'Z' then .ok (s.dropLast, some 0)
  else
    match cutLastBytes 6 s with
    | none => .ok (s, none)
    | some (body, zone) =>
      match zoneParts? zone with
      | none => .ok (s, none)
      | some (negative, hours, minutes) =>
        let total := numeral hours * 60 + numeral minutes
        if isNumeral hours && isNumeral minutes && decide (numeral minutes ≤ 59) && decide (total ≤ maxOffset) then
          .ok (body, some (Int16.ofInt (if negative then -total else total)))
        else .error (.badZone (String.ofList zone))

def zoneChars : Option Int16 → List Char
  | none => []
  | some offset =>
    let m := offset.toInt
    if m = 0 then ['Z']
    else (if m < 0 then '-' else '+') :: (padded 2 (m.natAbs / 60) ++ ':' :: padded 2 (m.natAbs % 60))

/-! ## Dates -/

/-- The sign of a year and what follows it; there is no plus sign. -/
def splitMinus : List Char → Bool × List Char
  | '-' :: s => (true, s)
  | s => (false, s)

/-- Reads a year of four to nine digits, which a minus sign may precede, and a month and a day of two digits each; the
day has to exist. -/
def readCivil (s : List Char) : Except ReadError CivilDate := do
  let (negative, body) := splitMinus s
  let some (y, rest) := cutAt '-' body | .error (.malformed .date)
  let some (m, d) := cutAt '-' rest | .error (.malformed .date)
  if utf8Length y < 4 ∨ utf8Length m ≠ 2 ∨ utf8Length d ≠ 2 then .error (.malformed .date)
  else if 9 < utf8Length y then .error (.outOfRange .year)
  else
    let year ← readNumeral .year y
    let month ← readNumeral .month m
    let day ← readNumeral .day d
    let date : CivilDate := ⟨if negative then -.ofNat year else .ofNat year, .ofNat month, .ofNat day⟩
    if date.month < 1 ∨ 12 < date.month then .error (.outOfRange .month)
    else if date.day = 0 ∨ CivilDate.daysInMonth date.year date.month < date.day then .error (.outOfRange .day)
    else .ok date

def civilChars (d : CivilDate) : List Char :=
  let year := padded 4 d.year.toInt.natAbs
  let rest := '-' :: (padded 2 d.month.toNat ++ '-' :: padded 2 d.day.toNat)
  if d.year < 0 then '-' :: (year ++ rest) else year ++ rest

/-- The day number of a date, in 32 bits, and its zone. -/
def readDate (s : List Char) : Except ReadError (Int32 × Option Int16) := do
  let (body, offset) ← cutZone s
  let date ← readCivil body
  match int32? date.toDays.toInt with
  | some days => .ok (days, offset)
  | none => .error (.outOfRange .year)

def dateChars (days : Int32) (offset : Option Int16) : List Char :=
  civilChars (CivilDate.ofDays days.toInt64) ++ zoneChars offset

/-! ## Times of day -/

/-- The microseconds of a fraction of a second; digits after the sixth are dropped. -/
def readFraction (s : List Char) : Except ReadError Nat :=
  if isNumeral s then .ok (numeral ((s ++ List.replicate 6 '0').take 6)) else .error (.malformed .fraction)

def clockParts? (s : List Char) : Option (List Char × List Char × List Char) :=
  match takeBytes 2 s with
  | some (hours, ':' :: s) =>
    match takeBytes 2 s with
    | some (minutes, ':' :: seconds) => if utf8Length seconds = 2 then some (hours, minutes, seconds) else none
    | _ => none
  | _ => none

def readClock (s : List Char) : Except ReadError Int := do
  let (whole, fraction) := match cutAt '.' s with
    | some (whole, fraction) => (whole, some fraction)
    | none => (s, none)
  let some (h, m, sec) := clockParts? whole | .error (.malformed .time)
  let hours ← readNumeral .hours h
  let minutes ← readNumeral .minutes m
  let seconds ← readNumeral .seconds sec
  if 23 < hours then .error (.outOfRange .hours)
  else if 59 < minutes then .error (.outOfRange .minutes)
  else if 59 < seconds then .error (.outOfRange .seconds)
  else
    let micros ← match fraction with
      | none => .ok 0
      | some f => readFraction f
    .ok (hours * microsPerHour + minutes * microsPerMinute + seconds * microsPerSecond + micros)

/-- A field of a clock; the sign of a negative count takes up one of the places. -/
def clockField (width : Nat) (n : Int) : List Char :=
  if n < 0 then '-' :: padded (width - 1) n.natAbs else padded width n.natAbs

/-- The clock at a number of microseconds, with as many digits of a fraction as it needs.  The fields are cut towards
zero, so each field of a negative count has its own sign. -/
def clockChars (micros : Int) : List Char :=
  let whole := clockField 2 (micros.tdiv microsPerHour) ++
    ':' :: (clockField 2 ((micros.tmod microsPerHour).tdiv microsPerMinute) ++
      ':' :: clockField 2 ((micros.tmod microsPerMinute).tdiv microsPerSecond))
  let fraction := micros.tmod microsPerSecond
  if fraction = 0 then whole
  else whole ++ '.' :: ((clockField 6 fraction).reverse.dropWhile (· == '0')).reverse

def readTime (s : List Char) : Except ReadError (Int64 × Option Int16) := do
  let (body, offset) ← cutZone s
  let micros ← readClock body
  .ok (Int64.ofInt micros, offset)

def timeChars (micros : Int) (offset : Option Int16) : List Char := clockChars micros ++ zoneChars offset

/-! ## Dates with times -/

/-- How far the clock of a zone is ahead of UTC, in microseconds. -/
def zoneShift (offset : Option Int16) : Int :=
  match offset with
  | none => 0
  | some m => m.toInt * microsPerMinute

/-- The instant of a reading.  The midnight of the day, the reading and the instant each have to fit in 64 bits. -/
def instant? (days time : Int) (offset : Option Int16) : Option Int64 := do
  let midnight ← int64? (days * microsPerDay)
  let reading ← int64? (midnight.toInt + time)
  int64? (reading.toInt - zoneShift offset)

/-- Reads a date and a time with a `T` between them. -/
def readDateTime (s : List Char) : Except ReadError (Int64 × Option Int16) := do
  let (body, offset) ← cutZone s
  let some (date, clock) := cutAt 'T' body | .error (.malformed .dateTime)
  let day ← readCivil date
  let time ← readClock clock
  match instant? day.toDays.toInt time offset with
  | some instant => .ok (instant, offset)
  | none => .error (.outOfRange .year)

/-- The sum of the instant and the shift is not checked. -/
def dateTimeChars (instant : Int64) (offset : Option Int16) : List Char :=
  let reading := (instant + .ofInt (zoneShift offset)).toInt
  civilChars (CivilDate.ofDays (.ofInt (reading / microsPerDay))) ++
    'T' :: (clockChars (reading % microsPerDay) ++ zoneChars offset)

end Time
end ShapeBinding
