import ShapeBinding.Datatype
import ShapeBinding.Vocabulary
/-!
# The built-in datatypes

Converters for seventeen XML Schema datatypes.  A string is any text.  An integer is a sign and digits within the bounds
of its datatype.  Decimals, floating-point numbers, dates and times are read and written by their own modules; here
stands what is left to check: that a float is exact, that an offset is at most fourteen hours, that a time lies within
the day and that a local reading fits in 64 bits.
-/
namespace ShapeBinding

namespace Converter

/-! ## Text and truth values -/

def string : Converter where
  valueType := .string
  decode s := .ok (.string s)
  encode
    | .string s => .ok s
    | v => .error (.unexpected v.type)

def boolean : Converter where
  valueType := .boolean
  decode s :=
    if s = "true" ∨ s = "1" then .ok (.boolean true)
    else if s = "false" ∨ s = "0" then .ok (.boolean false)
    else .error .notBoolean
  encode
    | .boolean b => .ok (if b then "true" else "false")
    | v => .error (.unexpected v.type)

/-! ## Numbers -/

/-- Reads a sign and digits as a 64-bit integer between two bounds. -/
def readInteger (least greatest : Int) (s : List Char) : Except Reason Int64 :=
  let (negative, body) := splitSign s
  if isNumeral body then
    let n : Int := if negative then -(numeral body : Int) else numeral body
    match int64? n with
    | none => .error .integerTooLarge
    | some w => if n < least ∨ greatest < n then .error (.outside n least greatest) else .ok w
  else .error .notInteger

def integerBetween (least greatest : Int) : Converter where
  valueType := .integer
  decode s := (readInteger least greatest s.toList).map .integer
  encode
    | .integer n =>
      if n.toInt < least ∨ greatest < n.toInt then .error (.outside n.toInt least greatest)
      else .ok (signedText n.toInt)
    | v => .error (.unexpected v.type)

def integer : Converter := integerBetween (-2 ^ 63) (2 ^ 63 - 1)

def int : Converter := integerBetween (-2 ^ 31) (2 ^ 31 - 1)

def short : Converter := integerBetween (-2 ^ 15) (2 ^ 15 - 1)

def nonNegativeInteger : Converter := integerBetween 0 (2 ^ 63 - 1)

def positiveInteger : Converter := integerBetween 1 (2 ^ 63 - 1)

def decimal : Converter where
  valueType := .decimal
  decode s :=
    match Decimal.read s.toList with
    | .ok d => .ok (.decimal d)
    | .error e => .error (.decimal e)
  encode
    | .decimal d => .ok d.text
    | v => .error (.unexpected v.type)

def double : Converter where
  valueType := .double
  decode s :=
    match Double.read? .double s with
    | some r => .ok (.double (.ofReading r))
    | none => .error .notFloatingPoint
  encode
    | .double x => .ok x.text
    | v => .error (.unexpected v.type)

/-- A float is held as the double of the same value. -/
def float : Converter where
  valueType := .double
  decode s :=
    match Double.read? .single s with
    | some r => .ok (.double (.ofReading r))
    | none => .error .notFloatingPoint
  encode
    | .double x =>
      match x.singleText? with
      | some text => .ok text
      | none => .error (.notSingle x)
    | v => .error (.unexpected v.type)

/-! ## Dates and times -/

/-- The absolute value is a word too, so that of the least offset is that offset. -/
def checkOffset (offset : Option Int16) : Except Reason Unit :=
  match offset with
  | some m => if Time.maxOffset < m.abs.toInt then .error (.offsetOutOfRange m) else .ok ()
  | none => .ok ()

def date : Converter where
  valueType := .date
  decode s :=
    match Time.readDate s.toList with
    | .ok (days, offset) => .ok (.date days offset)
    | .error e => .error (.time e)
  encode
    | .date days offset => do
      checkOffset offset
      .ok (String.ofList (Time.dateChars days offset))
    | v => .error (.unexpected v.type)

def time : Converter where
  valueType := .time
  decode s :=
    match Time.readTime s.toList with
    | .ok (micros, offset) => .ok (.time micros offset)
    | .error e => .error (.time e)
  encode
    | .time micros offset => do
      if micros.toInt < 0 ∨ Time.microsPerDay ≤ micros.toInt then .error (.notTimeOfDay micros)
      else
        checkOffset offset
        .ok (String.ofList (Time.timeChars micros.toInt offset))
    | v => .error (.unexpected v.type)

def dateTime : Converter where
  valueType := .dateTime
  decode s :=
    match Time.readDateTime s.toList with
    | .ok (micros, offset) => .ok (.dateTime micros offset)
    | .error e => .error (.time e)
  encode
    | .dateTime micros offset => do
      checkOffset offset
      match int64? (micros.toInt + Time.zoneShift offset) with
      | none => .error .instantOutOfRange
      | some _ => .ok (String.ofList (Time.dateTimeChars micros offset))
    | v => .error (.unexpected v.type)

end Converter

/-- The table that an application starts from. -/
def Datatypes.builtin : Datatypes := .ofList
  [(Xsd.string, .string), (Xsd.normalizedString, .string), (Xsd.token, .string), (Xsd.anyURI, .string),
   (Xsd.integer, .integer), (Xsd.long, .integer), (Xsd.int, .int), (Xsd.short, .short),
   (Xsd.nonNegativeInteger, .nonNegativeInteger), (Xsd.positiveInteger, .positiveInteger),
   (Xsd.decimal, .decimal), (Xsd.double, .double), (Xsd.float, .float), (Xsd.boolean, .boolean),
   (Xsd.date, .date), (Xsd.time, .time), (Xsd.dateTime, .dateTime)]

end ShapeBinding
