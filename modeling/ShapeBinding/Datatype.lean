import ShapeBinding.Fault
import ShapeBinding.Text.Quoted
import ShapeBinding.Time.Lexical
import ShapeBinding.Value
/-!
# Datatypes

A converter reads the lexical forms of one datatype into values of one type and writes such values back; both directions
may refuse, and then give a reason.  A table of datatypes finds the converter of a datatype IRI.  `Datatypes.decode`
reads through a table, and `Datatypes.encode` writes through it once the value's type is the datatype's.
-/
namespace ShapeBinding

/-! ## Reasons for refusing -/

inductive Reason where
  | notInteger
  | integerTooLarge
  | outside (value least greatest : Int)
  | decimal (error : Decimal.ReadError)
  | notFloatingPoint
  /-- The double is no value of the narrower format. -/
  | notSingle (value : Double)
  | notBoolean
  | time (error : Time.ReadError)
  | offsetOutOfRange (minutes : Int16)
  | notTimeOfDay (micros : Int64)
  | instantOutOfRange
  | unexpected (type : ValueType)
  /-- What a converter of the caller says. -/
  | custom (text : String)
  deriving DecidableEq

def signedText (n : Int) : String := String.ofList (signedDigits n)

def Reason.message : Reason → String
  | notInteger => "not an integer"
  | integerTooLarge => "integer exceeds 64 bits"
  | outside n least greatest =>
    signedText n ++ " outside [" ++ signedText least ++ ", " ++ signedText greatest ++ "]"
  | decimal e => e.message
  | notFloatingPoint => "not a floating-point number"
  | notSingle x => x.text ++ " is not representable as xsd:float"
  | notBoolean => "expected true, false, 1 or 0"
  | time e => e.message
  | offsetOutOfRange m => "offset " ++ signedText m.toInt ++ " minutes out of range"
  | notTimeOfDay n => signedText n.toInt ++ " microseconds is not a time of day"
  | instantOutOfRange => "instant out of range"
  | unexpected t => "unexpected " ++ t.text ++ " value"
  | custom text => text

/-! ## Converters and their errors -/

structure Converter where
  /-- The type of the values that are read and written. -/
  valueType : ValueType
  decode : String → Except Reason Value
  encode : Value → Except Reason String

inductive ConvertError where
  | unsupportedDatatype (datatype : String)
  | invalidLiteral (datatype lexical : String) (reason : Reason)
  | valueTypeMismatch (datatype : String) (expected found : ValueType)
  | invalidValue (datatype : String) (reason : Reason)
  deriving DecidableEq

namespace ConvertError

def code : ConvertError → FaultCode
  | unsupportedDatatype _ => .unsupportedDatatype
  | _ => .invalidValue

def detail : ConvertError → String
  | unsupportedDatatype dt => "no converter registered for datatype <" ++ dt ++ ">"
  | invalidLiteral dt lexical reason =>
    "invalid lexical form " ++ quoted lexical ++ " for <" ++ dt ++ ">: " ++ reason.message
  | valueTypeMismatch dt expected found =>
    "<" ++ dt ++ "> expects a " ++ expected.text ++ " value, got " ++ found.text
  | invalidValue dt reason => "value cannot be encoded as <" ++ dt ++ ">: " ++ reason.message

def message (e : ConvertError) : String := e.code.label ++ e.detail

end ConvertError

/-! ## Tables of datatypes -/

/-- Converters by datatype IRI, in the order in which the datatypes were first registered. -/
structure Datatypes where
  entries : List (String × Converter)

namespace Datatypes

def empty : Datatypes := ⟨[]⟩

instance : EmptyCollection Datatypes := ⟨empty⟩

instance : Inhabited Datatypes := ⟨empty⟩

/-- Puts a converter in the place of the one registered for the datatype, or at the end. -/
def insertEntry (datatype : String) (c : Converter) : List (String × Converter) → List (String × Converter)
  | [] => [(datatype, c)]
  | e :: es => if e.1 = datatype then (datatype, c) :: es else e :: insertEntry datatype c es

def register (d : Datatypes) (datatype : String) (c : Converter) : Datatypes := ⟨insertEntry datatype c d.entries⟩

def ofList (entries : List (String × Converter)) : Datatypes :=
  entries.foldl (fun d e => d.register e.1 e.2) empty

def find? (d : Datatypes) (datatype : String) : Option Converter := d.entries.lookup datatype

def contains (d : Datatypes) (datatype : String) : Bool := (d.find? datatype).isSome

def valueType? (d : Datatypes) (datatype : String) : Option ValueType := (d.find? datatype).map (·.valueType)

def size (d : Datatypes) : Nat := d.entries.length

def isEmpty (d : Datatypes) : Bool := d.entries.isEmpty

theorem lookup_insertEntry (datatype dt : String) (c : Converter) : ∀ es : List (String × Converter),
    (insertEntry datatype c es).lookup dt = if dt = datatype then some c else es.lookup dt
  | [] => by
    by_cases h : dt = datatype
    · simp [insertEntry, h]
    · have h1 : (dt == datatype) = false := by simpa using h
      simp [insertEntry, List.lookup_cons, h, h1]
  | (d, c') :: es => by
    have ih := lookup_insertEntry datatype dt c es
    unfold insertEntry
    by_cases h : dt = datatype
    · subst h
      by_cases he : d = dt
      · simp [he]
      · have : (dt == d) = false := by simpa using Ne.symm he
        simp [he, List.lookup_cons, this, ih]
    · by_cases he : d = datatype
      · have h1 : (dt == datatype) = false := by simpa using h
        simp [he, List.lookup_cons, h, h1]
      · by_cases hd : dt = d
        · simp [he, hd]
        · have : (dt == d) = false := by simpa using hd
          simp [he, List.lookup_cons, this, ih, h]

theorem find?_register (d : Datatypes) (datatype dt : String) (c : Converter) :
    (d.register datatype c).find? dt = if dt = datatype then some c else d.find? dt :=
  lookup_insertEntry datatype dt c d.entries

def decode (d : Datatypes) (datatype lexical : String) : Except ConvertError Value :=
  match d.find? datatype with
  | none => .error (.unsupportedDatatype datatype)
  | some c =>
    match c.decode lexical with
    | .ok v => .ok v
    | .error reason => .error (.invalidLiteral datatype lexical reason)

def encode (d : Datatypes) (datatype : String) (v : Value) : Except ConvertError String :=
  match d.find? datatype with
  | none => .error (.unsupportedDatatype datatype)
  | some c =>
    if v.type = c.valueType then
      match c.encode v with
      | .ok lexical => .ok lexical
      | .error reason => .error (.invalidValue datatype reason)
    else .error (.valueTypeMismatch datatype c.valueType v.type)

end Datatypes
end ShapeBinding
