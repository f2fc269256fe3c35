import ShapeBinding.Entity
/-!
# Entities as triples

An entity is written as a triple for its type followed by the triples of its properties, in order.  A literal value
becomes a literal of the declared datatype.  A nested entity becomes the triple that leads to it, right before its own
triples.
-/
namespace ShapeBinding
namespace Entity

def encodeLiteral (ds : Datatypes) (property datatype : String) (v : Value) : Except BindError Term :=
  match ds.encode datatype v with
  | .ok lexical => .ok (.typed lexical datatype)
  | .error e => .error (.convert property e)

mutual

/-- The triples of an entity and of all that are nested in it. -/
def triples (ds : Datatypes) : Entity → Except BindError (List Triple)
  | ⟨schema, subject, slots⟩ => do
    let ts ← slotsTriples ds subject schema.properties slots
    .ok (⟨subject, .iri Rdf.type, .iri schema.targetType⟩ :: ts)

def slotsTriples (ds : Datatypes) (subject : Term) :
    List (Property Schema) → List (Slot Entity) → Except BindError (List Triple)
  | p :: ps, s :: ss => do
    let ts ← slotTriples ds subject p s
    let us ← slotsTriples ds subject ps ss
    .ok (ts ++ us)
  | _, _ => .ok []

def slotTriples (ds : Datatypes) (subject : Term) (p : Property Schema) : Slot Entity → Except BindError (List Triple)
  | ⟨_, values⟩ => fieldsTriples ds subject p values

def fieldsTriples (ds : Datatypes) (subject : Term) (p : Property Schema) :
    List (Field Entity) → Except BindError (List Triple)
  | [] => .ok []
  | f :: fs => do
    let ts ← fieldTriples ds subject p f
    let us ← fieldsTriples ds subject p fs
    .ok (ts ++ us)

def fieldTriples (ds : Datatypes) (subject : Term) (p : Property Schema) :
    Field Entity → Except BindError (List Triple)
  | .literal v =>
    match p.kind with
    | .datatype iri => do
      let object ← encodeLiteral ds p.name iri v
      .ok [⟨subject, .iri p.path, object⟩]
    | .nested _ => .error p.otherKind
  | .entity e =>
    match p.kind with
    | .nested _ => do
      let ts ← triples ds e
      .ok (⟨subject, .iri p.path, e.subject⟩ :: ts)
    | .datatype _ => .error p.otherKind

end

end Entity
end ShapeBinding
