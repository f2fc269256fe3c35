import ShapeBinding.Namespace
import ShapeBinding.Term
/-!
# Schemas

A schema is the compiled form of a shape: the type of the entities it describes and, in order, their properties.  A
property says under which predicate its values stand, what kind of values they are and how many there may be.  Its kind
is a datatype or another schema; properties are written for any type of reference, since a shape that is not compiled
yet refers to another one by its subject.
-/
namespace ShapeBinding

/-- The qualified name of an IRI if it has one, and else the IRI itself. -/
def labelFor (qualified : Option QName) (iri : String) : String :=
  match qualified with
  | some q => q.text
  | none => iri

/-! ## Properties -/

/-- What the values of a property are: literals of a datatype, or entities of what is referred to. -/
inductive ValueKind (σ : Type) where
  | datatype (iri : String)
  | nested (reference : σ)
  deriving DecidableEq, Repr

structure Property (σ : Type) where
  name : String
  /-- The predicate under which the values stand. -/
  path : String
  kind : ValueKind σ
  maxCount : Option UInt32
  /-- What else the shape says of the property, in graph order. -/
  constraints : List (Term × Term)
  qualifiedPath : Option QName
  qualifiedDatatype : Option QName
  deriving DecidableEq, Repr

namespace Property

variable {σ : Type}

def datatype? (p : Property σ) : Option String :=
  match p.kind with
  | .datatype iri => some iri
  | .nested _ => none

def nested? (p : Property σ) : Option σ :=
  match p.kind with
  | .datatype _ => none
  | .nested s => some s

def isSingle (p : Property σ) : Bool := p.maxCount = some 1

def allows (p : Property σ) (count : Nat) : Bool := p.maxCount.all fun max => decide (count ≤ max.toNat)

theorem allows_iff {p : Property σ} {count : Nat} :
    p.allows count = true ↔ ∀ max, p.maxCount = some max → count ≤ max.toNat := by
  unfold allows
  cases p.maxCount <;> simp

def pathLabel (p : Property σ) : String := labelFor p.qualifiedPath p.path

end Property

/-! ## Schemas -/

structure Schema where
  name : String
  targetType : String
  qualifiedTarget : Option QName
  /-- The shape that the schema was compiled from. -/
  shape : Term
  properties : List (Property Schema)

/-- What a program that is generated from a schema has to know of a property. -/
structure Parameter where
  name : String
  kind : String
  path : String
  maxCount : Option UInt32
  deriving DecidableEq, Repr

namespace Schema

def property? (s : Schema) (name : String) : Option (Property Schema) := s.properties.find? (·.name = name)

def propertyIndex? (s : Schema) (name : String) : Option Nat := s.properties.findIdx? (·.name = name)

/-- The schemas of the nested properties, in order. -/
def dependencies (s : Schema) : List Schema := s.properties.filterMap Property.nested?

def targetLabel (s : Schema) : String := labelFor s.qualifiedTarget s.targetType

end Schema

/-- The name of the nested schema, or the datatype under its qualified name if it has one. -/
def Property.kindLabel (p : Property Schema) : String :=
  match p.kind with
  | .nested s => s.name
  | .datatype iri => labelFor p.qualifiedDatatype iri

def Property.parameter (p : Property Schema) : Parameter := ⟨p.name, p.kindLabel, p.pathLabel, p.maxCount⟩

def Schema.parameters (s : Schema) : List Parameter := s.properties.map Property.parameter

/-! ## Equality -/

mutual

/-- Compares two schemas, nested ones included. -/
def Schema.same : Schema → Schema → Bool
  | ⟨name, target, qtarget, shape, ps⟩, ⟨name', target', qtarget', shape', ps'⟩ =>
    name = name' && target = target' && qtarget = qtarget' && shape = shape' && Schema.sameProperties ps ps'

def Schema.sameProperties : List (Property Schema) → List (Property Schema) → Bool
  | [], [] => true
  | p :: ps, q :: qs => Schema.sameProperty p q && Schema.sameProperties ps qs
  | _, _ => false

def Schema.sameProperty : Property Schema → Property Schema → Bool
  | ⟨name, path, kind, max, cs, qpath, qdatatype⟩, ⟨name', path', kind', max', cs', qpath', qdatatype'⟩ =>
    name = name' && path = path' && Schema.sameKind kind kind' && max = max' && cs = cs' && qpath = qpath' &&
      qdatatype = qdatatype'

def Schema.sameKind : ValueKind Schema → ValueKind Schema → Bool
  | .datatype iri, .datatype iri' => iri = iri'
  | .nested s, .nested s' => s.same s'
  | _, _ => false

end

mutual

theorem Schema.same_iff : ∀ s t : Schema, s.same t = true ↔ s = t
  | ⟨_, _, _, _, ps⟩, ⟨_, _, _, _, ps'⟩ => by
    simp [Schema.same, Schema.sameProperties_iff ps ps', and_assoc]

theorem Schema.sameProperties_iff : ∀ ps qs : List (Property Schema), Schema.sameProperties ps qs = true ↔ ps = qs
  | [], [] => by simp [Schema.sameProperties]
  | p :: ps, q :: qs => by
    simp [Schema.sameProperties, Schema.sameProperty_iff p q, Schema.sameProperties_iff ps qs]
  | [], _ :: _ => by simp [Schema.sameProperties]
  | _ :: _, [] => by simp [Schema.sameProperties]

theorem Schema.sameProperty_iff : ∀ p q : Property Schema, Schema.sameProperty p q = true ↔ p = q
  | ⟨_, _, kind, _, _, _, _⟩, ⟨_, _, kind', _, _, _, _⟩ => by
    simp [Schema.sameProperty, Schema.sameKind_iff kind kind', and_assoc]

theorem Schema.sameKind_iff : ∀ k l : ValueKind Schema, Schema.sameKind k l = true ↔ k = l
  | .datatype _, .datatype _ => by simp [Schema.sameKind]
  | .nested s, .nested s' => by simp [Schema.sameKind, Schema.same_iff s s']
  | .datatype _, .nested _ => by simp [Schema.sameKind]
  | .nested _, .datatype _ => by simp [Schema.sameKind]

end

instance : DecidableEq Schema := fun s t => decidable_of_iff _ (Schema.same_iff s t)

end ShapeBinding
