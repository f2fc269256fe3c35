import ShapeBinding.Catalog
import ShapeBinding.Datatype
import ShapeBinding.Shape.Precedence
/-!
# Compilation

Compiling a shapes graph takes every shape there is, puts them into the order of precedence and turns one after the
other into a schema of the catalog.  A reference to a shape is resolved by the name of that shape, under which the catalog
has its schema already because of the order.  The first fault ends the compilation, and then there is no catalog at all.
-/
namespace ShapeBinding

structure CompileOptions where
  /-- The datatype of a property that says neither a datatype nor a nested shape. -/
  defaultDatatype : String := Xsd.string
  /-- Whether a datatype without a converter is a fault. -/
  requireKnownDatatypes : Bool := false
  deriving DecidableEq, Repr, Inhabited

namespace CompileOptions

def accepts (o : CompileOptions) (ds : Datatypes) (datatype : String) : Bool :=
  !o.requireKnownDatatypes || ds.contains datatype

end CompileOptions

namespace PropertyShape

/-- The kind of a property of the named shape, once the one of the shapes that it may refer to is in the catalog. -/
def compileKind (o : CompileOptions) (ds : Datatypes) (shapes : List Shape) (c : Catalog) (shape : String)
    (p : PropertyShape) : Except CompileError (ValueKind Schema) :=
  match p.kind with
  | some (.nested reference) =>
    match (Shape.nameOf? shapes reference).bind c.byName? with
    | some s => .ok (.nested s)
    | none => .error (.unknownReference shape p.name reference)
  | some (.datatype iri) => known iri
  | none => known o.defaultDatatype
where
  known (iri : String) : Except CompileError (ValueKind Schema) :=
    if o.accepts ds iri then .ok (.datatype iri) else .error (.unsupportedDatatype shape p.name (.iri iri))

def qualifyKind? (namespaces : Namespaces) : ValueKind Schema → Option QName
  | .datatype iri => namespaces.qualify? iri
  | .nested _ => none

def compile (o : CompileOptions) (ds : Datatypes) (shapes : List Shape) (c : Catalog) (shape : String)
    (p : PropertyShape) : Except CompileError (Property Schema) := do
  let kind ← p.compileKind o ds shapes c shape
  .ok {
    name := p.name
    path := p.path
    kind
    maxCount := p.maxCount
    constraints := p.constraints
    qualifiedPath := c.namespaces.qualify? p.path
    qualifiedDatatype := qualifyKind? c.namespaces kind }

end PropertyShape

/-- The schema of one of the shapes, once those that it refers to are in the catalog. -/
def Shape.compile (o : CompileOptions) (ds : Datatypes) (shapes : List Shape) (c : Catalog) (s : Shape) :
    Except CompileError Schema := do
  let properties ← s.properties.mapM (PropertyShape.compile o ds shapes c s.name)
  .ok {
    name := s.name
    targetType := s.target
    qualifiedTarget := c.namespaces.qualify? s.target
    shape := s.subject
    properties }

namespace Catalog

def addShape (o : CompileOptions) (ds : Datatypes) (shapes : List Shape) (c : Catalog) (s : Shape) :
    Except CompileError Catalog := do
  let schema ← s.compile o ds shapes c
  c.register schema

/-- Compiles shapes in an order in which each comes after those it refers to. -/
def ofShapes (o : CompileOptions) (ds : Datatypes) (namespaces : Namespaces) (shapes : List Shape) :
    Except CompileError Catalog := do
  let positions ← Precedence.order shapes
  (Precedence.shapesAt shapes positions).foldlM (addShape o ds shapes) (empty namespaces)

def compile (o : CompileOptions) (ds : Datatypes) (namespaces : Namespaces) (g : Graph) :
    Except CompileError Catalog := do
  let shapes ← Shape.readAll g
  ofShapes o ds namespaces shapes

end Catalog
end ShapeBinding
