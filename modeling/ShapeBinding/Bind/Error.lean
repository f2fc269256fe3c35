import ShapeBinding.Datatype
import ShapeBinding.Schema
/-!
# What keeps data and schemas apart

The faults of binding a graph to a schema, of asking an entity for a property and of writing an entity back.  Each
constructor is one cause with what it is about.  A converter's error is reported under the property whose value it was
about, and keeps its own code.
-/
namespace ShapeBinding

inductive BindError where
  | unknownTarget (target : String)
  | noRoot (schema target : String)
  | severalRoots (schema target : String) (count : Nat)
  | tooManyValues (schema property : String) (max : UInt32) (found : Nat)
  | convert (property : String) (error : ConvertError)
  | notLiteral (property : String) (found : Term)
  | notNode (property : String) (found : Term)
  | otherDatatype (property declared found : String)
  | unknownProperty (schema property : String)
  | notSingle (property : String)
  /-- What a property holds is of another kind; a nested schema is known by its name. -/
  | otherKind (property : String) (expected : ValueKind String)
  deriving DecidableEq

namespace BindError

def code : BindError → FaultCode
  | unknownTarget _ => .rootSelection
  | noRoot _ _ => .rootSelection
  | severalRoots _ _ _ => .rootSelection
  | tooManyValues _ _ _ _ => .cardinality
  | convert _ e => e.code
  | _ => .entityAccess

def countText (n : Nat) : String := String.ofList (digits n)

def expectation : ValueKind String → String
  | .datatype iri => "literal values of <" ++ iri ++ ">"
  | .nested schema => schema ++ " entities"

def detail : BindError → String
  | unknownTarget target => "no schema targets type " ++ target
  | noRoot schema target => "no subject of type " ++ target ++ " found for schema " ++ quoted schema
  | severalRoots schema target count =>
    countText count ++ " subjects of type " ++ target ++ " found for schema " ++ quoted schema ++ ", expected one"
  | tooManyValues schema property max found =>
    "property " ++ quoted property ++ " of " ++ quoted schema ++ " allows at most " ++ countText max.toNat ++
      " value(s), found " ++ countText found
  | convert property e => "property " ++ quoted property ++ ": " ++ e.message
  | notLiteral property found => "property " ++ quoted property ++ " expects literal values, found " ++ found.text
  | notNode property found => "property " ++ quoted property ++ " expects nested nodes, found " ++ found.text
  | otherDatatype property declared found =>
    "property " ++ quoted property ++ " declares <" ++ declared ++ "> but literal is typed <" ++ found ++ ">"
  | unknownProperty schema property => "schema " ++ quoted schema ++ " has no property " ++ quoted property
  | notSingle property => "property " ++ quoted property ++ " is not single-valued (sh:maxCount is not 1)"
  | otherKind property expected => "property " ++ quoted property ++ " expects " ++ expectation expected

/-- A converter's error brings its code along; every other message starts with it. -/
def message : BindError → String
  | convert property e => (convert property e).detail
  | e => e.code.label ++ e.detail

end BindError

/-! ## The two checks of a property -/

namespace Property

def expected (p : Property Schema) : ValueKind String :=
  match p.kind with
  | .datatype iri => .datatype iri
  | .nested s => .nested s.name

def otherKind (p : Property Schema) : BindError := .otherKind p.name p.expected

def checkCount (schema : String) (p : Property Schema) (count : Nat) : Except BindError Unit :=
  match p.maxCount with
  | some max => if p.allows count then .ok () else .error (.tooManyValues schema p.name max count)
  | none => .ok ()

theorem checkCount_eq_ok_iff {schema : String} {p : Property Schema} {count : Nat} :
    p.checkCount schema count = .ok () ↔ p.allows count = true := by
  unfold checkCount
  cases h : p.maxCount with
  | none => simp [allows, h]
  | some max => cases hp : p.allows count <;> simp

end Property
end ShapeBinding
