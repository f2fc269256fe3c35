import ShapeBinding.Fault
import ShapeBinding.Term
import ShapeBinding.Text.Quoted
/-!
# What keeps shapes from compiling

A compilation stops at the first fault of the shapes graph.  Each constructor is one cause with what it is about; the
message names a shape and a property as the graph does, and shows a term by its text.
-/
namespace ShapeBinding

inductive ShapeField where
  | name
  | targetClass
  | path
  deriving DecidableEq, Repr

def ShapeField.text : ShapeField → String
  | name => "sh:name"
  | targetClass => "sh:targetClass"
  | path => "sh:path"

inductive CompileError where
  | missingField (subject : Term) (field : ShapeField)
  | conflictingKind (shape property : String)
  | unknownReference (shape property : String) (reference : Term)
  | duplicateSchema (name : String)
  | duplicateTarget (target existing name : String)
  | duplicateProperty (shape property : String)
  /-- Each of the shapes refers to the next one, and the last to the first. -/
  | cycle (shapes : List String)
  | invalidMaxCount (shape property : String) (value : Term)
  | unsupportedPath (shape property : String) (path : Term)
  | unsupportedDatatype (shape property : String) (datatype : Term)
  deriving DecidableEq, Repr

namespace CompileError

def code : CompileError → FaultCode
  | missingField _ _ => .missingField
  | conflictingKind _ _ => .conflictingKind
  | unknownReference _ _ _ => .unknownReference
  | duplicateSchema _ => .duplicate
  | duplicateTarget _ _ _ => .duplicate
  | duplicateProperty _ _ => .duplicate
  | cycle _ => .cycle
  | invalidMaxCount _ _ _ => .invalidConstraint
  | unsupportedPath _ _ _ => .invalidConstraint
  | unsupportedDatatype _ _ _ => .unsupportedDatatype

def propertyOf (shape property : String) : String := "property " ++ quoted property ++ " of shape " ++ shape

/-- A datatype in angle brackets, which the text of an IRI has already. -/
def bracketed (datatype : Term) : String :=
  match datatype.iri? with
  | some iri => "<" ++ iri ++ ">"
  | none => "<" ++ datatype.text ++ ">"

def detail : CompileError → String
  | missingField subject field => subject.text ++ " is missing required field " ++ field.text
  | conflictingKind shape property => propertyOf shape property ++ " declares both sh:datatype and sh:node"
  | unknownReference shape property reference =>
    propertyOf shape property ++ " references unknown schema " ++ reference.text
  | duplicateSchema name => "schema " ++ quoted name ++ " is defined more than once"
  | duplicateTarget target existing name =>
    "schemas " ++ quoted existing ++ " and " ++ quoted name ++ " both target " ++ target
  | duplicateProperty shape property =>
    "shape " ++ shape ++ " declares property " ++ quoted property ++ " more than once"
  | cycle shapes => "cyclic sh:node dependency between shapes: " ++ String.intercalate ", " shapes
  | invalidMaxCount shape property value => propertyOf shape property ++ " has invalid sh:maxCount " ++ value.text
  | unsupportedPath shape property path => propertyOf shape property ++ " has unsupported sh:path " ++ path.text
  | unsupportedDatatype shape property datatype =>
    propertyOf shape property ++ " uses unsupported datatype " ++ bracketed datatype

def message (e : CompileError) : String := e.code.label ++ e.detail

end CompileError
end ShapeBinding
