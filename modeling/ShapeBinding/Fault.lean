/-!
# Fault codes

Every error of the library belongs to one of eleven families, each with a stable code.  A message starts with the code
in brackets.
-/
namespace ShapeBinding

inductive FaultCode where
  | missingField
  | conflictingKind
  | unknownReference
  /-- A name, a target type, a property name or a namespace name is taken. -/
  | duplicate
  | cycle
  /-- A constraint that is understood has a value that is not. -/
  | invalidConstraint
  | unsupportedDatatype
  | invalidValue
  /-- There is not exactly one entity to bind. -/
  | rootSelection
  | cardinality
  /-- A value has the wrong kind, or an entity is asked for what it does not have. -/
  | entityAccess
  deriving DecidableEq, Repr

namespace FaultCode

def text : FaultCode → String
  | missingField => "S001"
  | conflictingKind => "S002"
  | unknownReference => "S003"
  | duplicate => "S004"
  | cycle => "S005"
  | invalidConstraint => "S006"
  | unsupportedDatatype => "S007"
  | invalidValue => "S008"
  | rootSelection => "S009"
  | cardinality => "S010"
  | entityAccess => "S011"

def label (c : FaultCode) : String := "[" ++ c.text ++ "] "

end FaultCode
end ShapeBinding
