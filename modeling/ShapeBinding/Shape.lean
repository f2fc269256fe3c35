import ShapeBinding.Compile.Error
import ShapeBinding.Graph
import ShapeBinding.Number.FixedWidth
import ShapeBinding.Schema
/-!
# Shapes

A shape as the shapes graph declares it: its subject, its name, the type that it targets and its property shapes, whose
references to other shapes are still subjects.  A property shape is read from the pairs of predicate and object of its
node alone (`PropertyShape.ofPairs`).  Five predicates are understood, each with its own rule for repetitions, and every
other pair is kept as a constraint; what is wrong is reported in a fixed order, whatever the order of the pairs.
-/
namespace ShapeBinding

/-! ## Property shapes -/

structure PropertyShape where
  name : String
  path : String
  /-- Nothing if the shape says neither a datatype nor a nested shape. -/
  kind : Option (ValueKind Term)
  maxCount : Option UInt32
  constraints : List (Term × Term)
  deriving DecidableEq, Repr

def valuesOf (predicate : String) (pairs : List (Term × Term)) : List Term :=
  (pairs.filter fun p => p.1 = .iri predicate).map (·.2)

def firstText? (ts : List Term) : Option String := ts.findSome? fun t => t.literal?.map (·.lexical)

/-- A count is a literal of any datatype whose lexical form is digits, perhaps after a plus sign, within 32 bits. -/
def readMaxCount? (t : Term) : Option UInt32 := do
  let l ← t.literal?
  let ds := match l.lexical.toList with
    | '+' :: ds => ds
    | ds => ds
  if isNumeral ds then uint32? (numeral ds) else none

namespace PropertyShape

/-- The predicates that a property shape is read from. -/
def understood : List Term := [.iri Sh.name, .iri Sh.path, .iri Sh.datatype, .iri Sh.node, .iri Sh.maxCount]

/-- The path has to be an IRI; only the first one given counts. -/
def readPath (shape name : String) (node : Term) : List Term → Except CompileError String
  | [] => .error (.missingField node .path)
  | .iri path :: _ => .ok path
  | other :: _ => .error (.unsupportedPath shape name other)

/-- There may be one datatype, which has to be an IRI, or one nested shape. -/
def readKind (shape name : String) (datatypes nodes : List Term) : Except CompileError (Option (ValueKind Term)) :=
  match datatypes, nodes with
  | [], [] => .ok none
  | [.iri datatype], [] => .ok (some (.datatype datatype))
  | [other], [] => .error (.unsupportedDatatype shape name other)
  | [], [reference] => .ok (some (.nested reference))
  | _, _ => .error (.conflictingKind shape name)

def readCount (shape name : String) : List Term → Except CompileError (Option UInt32)
  | [] => .ok none
  | [count] =>
    match readMaxCount? count with
    | some max => .ok (some max)
    | none => .error (.invalidMaxCount shape name count)
  | _ :: second :: _ => .error (.invalidMaxCount shape name second)

/-- Reads a property shape of the named shape from what is said of its node. -/
def ofPairs (shape : String) (node : Term) (pairs : List (Term × Term)) : Except CompileError PropertyShape := do
  let name ← match firstText? (valuesOf Sh.name pairs) with
    | some name => .ok name
    | none => .error (.missingField node .name)
  let path ← readPath shape name node (valuesOf Sh.path pairs)
  let kind ← readKind shape name (valuesOf Sh.datatype pairs) (valuesOf Sh.node pairs)
  let maxCount ← readCount shape name (valuesOf Sh.maxCount pairs)
  .ok { name, path, kind, maxCount, constraints := pairs.filter fun p => p.1 ∉ understood }

def read (g : Graph) (shape : String) (node : Term) : Except CompileError PropertyShape :=
  ofPairs shape node (g.predicateObjects node)

end PropertyShape

/-! ## Shapes -/

structure Shape where
  subject : Term
  name : String
  target : String
  properties : List PropertyShape
  deriving DecidableEq, Repr

namespace Shape

/-- The subjects that the shape refers to, each with the name of the property. -/
def references (s : Shape) : List (String × Term) :=
  s.properties.filterMap fun p =>
    match p.kind with
    | some (.nested reference) => some (p.name, reference)
    | _ => none

def nameOf? (shapes : List Shape) (subject : Term) : Option String :=
  (shapes.find? (·.subject = subject)).map (·.name)

/-- The subjects of a graph that are shapes, those typed `sh:Shape` first, each once. -/
def discover (g : Graph) : List Term :=
  (g.subjects (.iri Rdf.type) (.iri Sh.shape) ++ g.subjects (.iri Rdf.type) (.iri Sh.nodeShape)).eraseDups

/-- What follows the last number sign or slash of an IRI. -/
def localName (iri : String) : String :=
  String.ofList (iri.toList.reverse.takeWhile fun c => c ≠ '#' ∧ c ≠ '/').reverse

/-- The name that a shape is given, or else the local name of its subject unless that is empty. -/
def readName (g : Graph) (subject : Term) : Except CompileError String :=
  match firstText? (g.objects subject (.iri Sh.name)), subject with
  | some name, _ => .ok name
  | none, .iri iri => if localName iri = "" then .error (.missingField subject .name) else .ok (localName iri)
  | none, _ => .error (.missingField subject .name)

/-- The first target that is an IRI. -/
def readTarget (g : Graph) (subject : Term) : Except CompileError String :=
  match (g.objects subject (.iri Sh.targetClass)).findSome? Term.iri? with
  | some target => .ok target
  | none => .error (.missingField subject .targetClass)

/-- Reads one more property shape, whose name has to be new. -/
def addProperty (g : Graph) (shape : String) (ps : List PropertyShape) (node : Term) :
    Except CompileError (List PropertyShape) := do
  let p ← PropertyShape.read g shape node
  if ps.any (·.name = p.name) then .error (.duplicateProperty shape p.name) else .ok (ps ++ [p])

def readProperties (g : Graph) (shape : String) (nodes : List Term) : Except CompileError (List PropertyShape) :=
  nodes.foldlM (addProperty g shape) []

def read (g : Graph) (subject : Term) : Except CompileError Shape := do
  let name ← readName g subject
  let target ← readTarget g subject
  let properties ← readProperties g name (g.objects subject (.iri Sh.property))
  .ok { subject, name, target, properties }

def readAll (g : Graph) : Except CompileError (List Shape) := (discover g).mapM (read g)

end Shape
end ShapeBinding
