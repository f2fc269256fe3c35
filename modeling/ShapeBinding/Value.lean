import ShapeBinding.Number.Decimal
import ShapeBinding.Number.Double
/-!
# Typed values

What a literal is once its lexical form has been read: one of eight types, each with its own range.  Dates and times
carry a zone offset in minutes if their lexical form had one.  `==` compares values, so that it differs from equality
on doubles only: no number is equal to itself if it is not a number, and the two zeros are equal.
-/
namespace ShapeBinding

inductive ValueType where
  | string
  | integer
  | decimal
  | double
  | boolean
  | date
  | time
  | dateTime
  deriving DecidableEq, Repr

def ValueType.text : ValueType → String
  | string => "String"
  | integer => "Integer"
  | decimal => "Decimal"
  | double => "Double"
  | boolean => "Boolean"
  | date => "Date"
  | time => "Time"
  | dateTime => "DateTime"

inductive Value where
  | string (text : String)
  | integer (value : Int64)
  | decimal (value : Decimal)
  | double (value : Double)
  | boolean (value : Bool)
  /-- Days since 1970-01-01. -/
  | date (days : Int32) (offset : Option Int16)
  /-- Microseconds since midnight. -/
  | time (micros : Int64) (offset : Option Int16)
  /-- Microseconds since 1970-01-01T00:00:00, in UTC if there is an offset. -/
  | dateTime (micros : Int64) (offset : Option Int16)
  deriving DecidableEq

namespace Value

def type : Value → ValueType
  | string _ => .string
  | integer _ => .integer
  | decimal _ => .decimal
  | double _ => .double
  | boolean _ => .boolean
  | date _ _ => .date
  | time _ _ => .time
  | dateTime _ _ => .dateTime

def string? : Value → Option String
  | string s => some s
  | _ => none

def integer? : Value → Option Int64
  | integer n => some n
  | _ => none

def boolean? : Value → Option Bool
  | boolean b => some b
  | _ => none

/-- Equality of values: numbers are compared as numbers. -/
def valueEq : Value → Value → Bool
  | double x, double y => x == y
  | a, b => a = b

instance : BEq Value := ⟨valueEq⟩

end Value
end ShapeBinding
