import ShapeBinding.Catalog
import ShapeBinding.Entity
import ShapeBinding.Graph
import ShapeBinding.Term.Order
/-!
# Binding

Binding reads a subject of a graph through a schema.  Property after property, the objects under the path are converted
in graph order: by the datatype if the property has one, and else by binding the object to the nested schema.  Only when
all the objects of a property are converted is their number held against what the property allows.  The first fault in
this order is the error.  As schemas are finite trees, binding ends on every graph, also where nodes refer to each other
in circles.
-/
namespace ShapeBinding

structure Binder where
  catalog : Catalog
  datatypes : Datatypes
  /-- Whether a literal's own datatype has to be the declared one. -/
  strict : Bool

namespace Binder

def bindLiteral (b : Binder) (property datatype : String) (object : Term) : Except BindError Value :=
  match object with
  | .literal l =>
    if b.strict ∧ l.datatype ≠ datatype then .error (.otherDatatype property datatype l.datatype)
    else
      match b.datatypes.decode datatype l.lexical with
      | .ok v => .ok v
      | .error e => .error (.convert property e)
  | _ => .error (.notLiteral property object)

mutual

/-- Binds a subject, whatever its types are. -/
def bindSubject (b : Binder) (g : Graph) (subject : Term) : Schema → Except BindError Entity
  | s@⟨name, _, _, _, properties⟩ => do
    let slots ← bindProperties b g name subject properties
    .ok ⟨s, subject, slots⟩

def bindProperties (b : Binder) (g : Graph) (schema : String) (subject : Term) :
    List (Property Schema) → Except BindError (List (Slot Entity))
  | [] => .ok []
  | p :: ps => do
    let slot ← bindProperty b g schema subject p
    let slots ← bindProperties b g schema subject ps
    .ok (slot :: slots)

def bindProperty (b : Binder) (g : Graph) (schema : String) (subject : Term) :
    Property Schema → Except BindError (Slot Entity)
  | p@⟨name, path, kind, _, _, _, _⟩ => do
    let values ← (g.objects subject (.iri path)).mapM fun object => bindObject b g name object kind
    p.checkCount schema values.length
    .ok ⟨Entity.literalType? b.datatypes p, values⟩

def bindObject (b : Binder) (g : Graph) (property : String) (object : Term) :
    ValueKind Schema → Except BindError (Field Entity)
  | .datatype iri => do
    let v ← b.bindLiteral property iri object
    .ok (.literal v)
  | .nested s =>
    if object.isLiteral then .error (.notNode property object)
    else do
      let e ← bindSubject b g object s
      .ok (.entity e)

end

/-! ### One step at a time -/

theorem bindSubject_eq (b : Binder) (g : Graph) (subject : Term) (s : Schema) :
    b.bindSubject g subject s = (do
      let slots ← b.bindProperties g s.name subject s.properties
      .ok ⟨s, subject, slots⟩) := by
  cases s
  simp only [bindSubject]

theorem bindProperties_eq_mapM (b : Binder) (g : Graph) (schema : String) (subject : Term) :
    ∀ ps : List (Property Schema),
      b.bindProperties g schema subject ps = ps.mapM (b.bindProperty g schema subject)
  | [] => by simp only [bindProperties, List.mapM_nil]; rfl
  | p :: ps => by
    simp only [bindProperties, List.mapM_cons, bindProperties_eq_mapM b g schema subject ps]
    rfl

theorem bindProperty_eq (b : Binder) (g : Graph) (schema : String) (subject : Term) (p : Property Schema) :
    b.bindProperty g schema subject p = (do
      let values ← (g.objects subject (.iri p.path)).mapM fun object => b.bindObject g p.name object p.kind
      p.checkCount schema values.length
      .ok ⟨Entity.literalType? b.datatypes p, values⟩) := by
  cases p
  simp only [bindProperty]

/-! ## Subjects by type -/

def roots (g : Graph) (s : Schema) : List Term := g.subjects (.iri Rdf.type) (.iri s.targetType)

/-- Binds the only subject of the schema's target type. -/
def bind (b : Binder) (g : Graph) (s : Schema) : Except BindError Entity :=
  match roots g s with
  | [] => .error (.noRoot s.name s.targetType)
  | [root] => b.bindSubject g root s
  | several => .error (.severalRoots s.name s.targetType several.length)

def bindType (b : Binder) (g : Graph) (target : String) : Except BindError Entity :=
  match b.catalog.byTarget? target with
  | some s => b.bind g s
  | none => .error (.unknownTarget target)

/-- Binds all the subjects of the schema's target type, in the order of terms. -/
def bindAll (b : Binder) (g : Graph) (s : Schema) : Except BindError (List Entity) :=
  (Term.sort (roots g s)).mapM fun root => b.bindSubject g root s

end Binder
end ShapeBinding
