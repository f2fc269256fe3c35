import ShapeBinding.Graph
/-!
# Sketches of graphs

A graph can be written down by names instead of terms.  A name is an IRI, `label:local` or `_:label`; it is expanded
when its triple is made, with the labels that the graph has at that moment and the default ones behind them.  A shape is
sketched with its property shapes, each of which gets a blank node of its own, under the next label of a supply of fresh
labels; a subject of an instance graph is sketched with its values.
-/
namespace ShapeBinding

/-! ## Names -/

/-- The base that a label stands for in a sketch: the graph's own labels go before the default ones. -/
def Graph.sketchBase? (g : Graph) (label : String) : Option String :=
  (g.labels.lookup label).or (defaultNamespaces.lookup label)

/-- The term that a name stands for.  A name whose label is unknown, or whose colon begins `://`, is an IRI as it is. -/
def Graph.expandName (g : Graph) (name : String) : Term :=
  match name.toList with
  | '_' :: ':' :: label => .blank (String.ofList label)
  | cs =>
    match cutAt ':' cs with
    | none => .iri name
    | some (label, rest) =>
      if List.isPrefixOf ['/', '/'] rest then .iri name
      else
        match g.sketchBase? (String.ofList label) with
        | some base => .iri (base ++ String.ofList rest)
        | none => .iri name

/-- An object of a sketch: a name, a literal whose datatype is a name, or a term as it is. -/
inductive ObjectSketch where
  | name (name : String)
  | typed (lexical datatype : String)
  | term (term : Term)
  deriving DecidableEq, Repr

/-- The term that an object stands for.  A datatype that is not the name of an IRI is taken as it is written. -/
def Graph.expandObject (g : Graph) : ObjectSketch → Term
  | .name n => g.expandName n
  | .typed lexical datatype => .typed lexical (((g.expandName datatype).iri?).getD datatype)
  | .term t => t

def Graph.addPairs (g : Graph) (subject : Term) (pairs : List (String × ObjectSketch)) : Graph :=
  pairs.foldl (fun g p => g.add subject (g.expandName p.1) (g.expandObject p.2)) g

/-! ## Shapes -/

structure PropertySketch where
  pairs : List (String × ObjectSketch)
  deriving DecidableEq, Repr

namespace PropertySketch

def empty : PropertySketch := ⟨[]⟩

def pair (p : PropertySketch) (predicate : String) (object : ObjectSketch) : PropertySketch :=
  ⟨p.pairs ++ [(predicate, object)]⟩

def name (p : PropertySketch) (name : String) : PropertySketch := p.pair "sh:name" (.term (.string name))

def path (p : PropertySketch) (path : String) : PropertySketch := p.pair "sh:path" (.name path)

def datatype (p : PropertySketch) (datatype : String) : PropertySketch := p.pair "sh:datatype" (.name datatype)

def node (p : PropertySketch) (shape : String) : PropertySketch := p.pair "sh:node" (.name shape)

def maxCount (p : PropertySketch) (max : UInt32) : PropertySketch :=
  p.pair "sh:maxCount" (.typed (String.ofList (digits max.toNat)) "xsd:integer")

def constraint (p : PropertySketch) (predicate : String) (object : Term) : PropertySketch :=
  p.pair predicate (.term object)

end PropertySketch

structure ShapeSketch where
  pairs : List (String × ObjectSketch)
  properties : List PropertySketch
  deriving DecidableEq, Repr

namespace ShapeSketch

def empty : ShapeSketch := ⟨[], []⟩

def pair (s : ShapeSketch) (predicate : String) (object : ObjectSketch) : ShapeSketch :=
  { s with pairs := s.pairs ++ [(predicate, object)] }

def name (s : ShapeSketch) (name : String) : ShapeSketch := s.pair "sh:name" (.term (.string name))

def targetClass (s : ShapeSketch) (type : String) : ShapeSketch := s.pair "sh:targetClass" (.name type)

def property (s : ShapeSketch) (p : PropertySketch) : ShapeSketch := { s with properties := s.properties ++ [p] }

def triple (s : ShapeSketch) (predicate : String) (object : Term) : ShapeSketch := s.pair predicate (.term object)

end ShapeSketch

/-- A shapes graph in the making, with the number of fresh labels that its property shapes have used up. -/
structure ShapesSketch where
  graph : Graph
  nodes : Nat

namespace ShapesSketch

def empty : ShapesSketch := ⟨.empty, 0⟩

def addLabel (s : ShapesSketch) (label base : String) : ShapesSketch := { s with graph := s.graph.addLabel label base }

variable (fresh : Nat → String)

/-- The blank node of the property shape with the given number. -/
def propertyNode (n : Nat) : Term := .blank (fresh n)

/-- Links a subject to a new property shape and adds what the sketch says of it. -/
def addProperty (subject : Term) (s : ShapesSketch) (p : PropertySketch) : ShapesSketch :=
  let node := propertyNode fresh s.nodes
  ⟨(s.graph.add subject (.iri Sh.property) node).addPairs node p.pairs, s.nodes + 1⟩

/-- Adds a shape of the given type: its own pairs first, then its property shapes. -/
def addShape (s : ShapesSketch) (type : String) (subject : String) (shape : ShapeSketch) : ShapesSketch :=
  let subject := s.graph.expandName subject
  let graph := (s.graph.add subject (.iri Rdf.type) (.iri type)).addPairs subject shape.pairs
  shape.properties.foldl (addProperty fresh subject) { s with graph }

def shape (s : ShapesSketch) (subject : String) (shape : ShapeSketch) : ShapesSketch :=
  s.addShape fresh Sh.shape subject shape

def nodeShape (s : ShapesSketch) (subject : String) (shape : ShapeSketch) : ShapesSketch :=
  s.addShape fresh Sh.nodeShape subject shape

end ShapesSketch

/-! ## Instances -/

structure EntitySketch where
  pairs : List (String × ObjectSketch)
  deriving DecidableEq, Repr

namespace EntitySketch

def empty : EntitySketch := ⟨[]⟩

def pair (e : EntitySketch) (predicate : String) (object : ObjectSketch) : EntitySketch :=
  ⟨e.pairs ++ [(predicate, object)]⟩

def literal (e : EntitySketch) (predicate lexical : String) : EntitySketch := e.pair predicate (.term (.string lexical))

def typed (e : EntitySketch) (predicate lexical datatype : String) : EntitySketch :=
  e.pair predicate (.typed lexical datatype)

def link (e : EntitySketch) (predicate object : String) : EntitySketch := e.pair predicate (.name object)

def value (e : EntitySketch) (predicate : String) (object : Term) : EntitySketch := e.pair predicate (.term object)

end EntitySketch

def Graph.addNode (g : Graph) (subject : String) (e : EntitySketch) : Graph :=
  g.addPairs (g.expandName subject) e.pairs

def Graph.addEntity (g : Graph) (subject type : String) (e : EntitySketch) : Graph :=
  (g.add (g.expandName subject) (.iri Rdf.type) (g.expandName type)).addNode subject e

end ShapeBinding
