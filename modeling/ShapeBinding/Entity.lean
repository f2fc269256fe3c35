import ShapeBinding.Bind.Error
import ShapeBinding.Call
/-!
# Entities

An entity is a subject read through a schema: for each property of the schema, in order, it has a slot with the values
under that property, which are literal values or further entities.  A slot remembers the type that its literal values
must have, so that an entity can be changed without the table of datatypes it was made with.  Changes go through
`Entity.set`, which lets in only values of the property's kind and only as many as the property allows.
-/
namespace ShapeBinding

inductive Field (ε : Type) where
  | literal (value : Value)
  | entity (entity : ε)

namespace Field

variable {ε : Type}

def literal? : Field ε → Option Value
  | literal v => some v
  | entity _ => none

def entity? : Field ε → Option ε
  | literal _ => none
  | entity e => some e

end Field

structure Slot (ε : Type) where
  /-- The type of the literal values; there is none for nested entities and for datatypes without a converter. -/
  valueType : Option ValueType
  values : List (Field ε)

structure Entity where
  schema : Schema
  subject : Term
  slots : List (Slot Entity)

/-! ## Equality -/

mutual

/-- Equality that compares literal values as values: no entity is equal to itself if a number in it is not a number. -/
def Entity.valueEq : Entity → Entity → Bool
  | ⟨schema, subject, slots⟩, ⟨schema', subject', slots'⟩ =>
    schema = schema' && subject = subject' && Entity.valueEqSlots slots slots'

def Entity.valueEqSlots : List (Slot Entity) → List (Slot Entity) → Bool
  | [], [] => true
  | s :: ss, t :: ts => Entity.valueEqSlot s t && Entity.valueEqSlots ss ts
  | _, _ => false

def Entity.valueEqSlot : Slot Entity → Slot Entity → Bool
  | ⟨type, values⟩, ⟨type', values'⟩ => type = type' && Entity.valueEqFields values values'

def Entity.valueEqFields : List (Field Entity) → List (Field Entity) → Bool
  | [], [] => true
  | f :: fs, g :: gs => Entity.valueEqField f g && Entity.valueEqFields fs gs
  | _, _ => false

def Entity.valueEqField : Field Entity → Field Entity → Bool
  | .literal v, .literal w => v == w
  | .entity e, .entity e' => e.valueEq e'
  | _, _ => false

end

instance : BEq Entity := ⟨Entity.valueEq⟩

namespace Entity

/-! ## New entities -/

def literalType? (ds : Datatypes) (p : Property Schema) : Option ValueType := p.datatype?.bind ds.valueType?

def empty (ds : Datatypes) (schema : Schema) (subject : Term) : Entity :=
  ⟨schema, subject, schema.properties.map fun p => ⟨literalType? ds p, []⟩⟩

/-! ## Reading -/

/-- The first property of a name with its slot. -/
def lookup? (e : Entity) (name : String) : Option (Property Schema × Slot Entity) :=
  (e.schema.properties.zip e.slots).find? (·.1.name = name)

def lookup (e : Entity) (name : String) : Except BindError (Property Schema × Slot Entity) :=
  match e.lookup? name with
  | some entry => .ok entry
  | none => .error (.unknownProperty e.schema.name name)

def get (e : Entity) (name : String) : Except BindError (List (Field Entity)) := do
  let (_, slot) ← e.lookup name
  .ok slot.values

/-- The value of a property that may have one at most. -/
def single (e : Entity) (name : String) : Except BindError (Option (Field Entity)) := do
  let (p, slot) ← e.lookup name
  if p.isSingle then .ok slot.values.head? else .error (.notSingle name)

/-- The value of a single-valued property, and nothing where `Entity.single` fails. -/
def single? (e : Entity) (name : String) : Option (Field Entity) :=
  match e.single name with
  | .ok field => field
  | .error _ => none

def literal? (e : Entity) (name : String) : Option Value := (e.single? name).bind Field.literal?

def string? (e : Entity) (name : String) : Option String := (e.literal? name).bind Value.string?

def integer? (e : Entity) (name : String) : Option Int64 := (e.literal? name).bind Value.integer?

def boolean? (e : Entity) (name : String) : Option Bool := (e.literal? name).bind Value.boolean?

def nested? (e : Entity) (name : String) : Option Entity := (e.single? name).bind Field.entity?

/-! ## Changing -/

/-- Whether a value may stand under a property whose literal values have the given type. -/
def checkKind (p : Property Schema) (type : Option ValueType) (field : Field Entity) : Except BindError Unit :=
  match p.kind, field with
  | .datatype iri, .literal v =>
    match type with
    | some t => if v.type = t then .ok () else .error p.otherKind
    | none => .error (.convert p.name (.unsupportedDatatype iri))
  | .nested s, .entity e => if e.schema.name = s.name then .ok () else .error p.otherKind
  | _, _ => .error p.otherKind

def replaceValues (name : String) (values : List (Field Entity)) :
    List (Property Schema) → List (Slot Entity) → List (Slot Entity)
  | p :: ps, s :: ss => if p.name = name then ⟨s.valueType, values⟩ :: ss else s :: replaceValues name values ps ss
  | _, ss => ss

def replace (e : Entity) (name : String) (values : List (Field Entity)) : Entity :=
  ⟨e.schema, e.subject, replaceValues name values e.schema.properties e.slots⟩

/-- What a change is checked for, in this order: that there is such a property, that every value is of its kind, and
that they are not more than it allows. -/
def checkChange (e : Entity) (name : String) (values : List (Field Entity)) : Except BindError Unit := do
  let (p, slot) ← e.lookup name
  values.forM (checkKind p slot.valueType)
  p.checkCount e.schema.name values.length

/-- The call that replaces the values of a property. -/
def setCall (name : String) (values : List (Field Entity)) : Call Entity BindError Unit :=
  .checkThen (·.checkChange name values) (·.replace name values)

/-- The call that removes the values of a property. -/
def clearCall (name : String) : Call Entity BindError Unit := .checkThen (·.lookup name) (·.replace name [])

/-- The entity with other values under a property, if they pass the check. -/
def set (e : Entity) (name : String) (values : List (Field Entity)) : Except BindError Entity :=
  (setCall name values).result e

def clear (e : Entity) (name : String) : Except BindError Entity := (clearCall name).result e

@[simp] theorem schema_replace (e : Entity) (name : String) (values : List (Field Entity)) :
    (e.replace name values).schema = e.schema := rfl

@[simp] theorem subject_replace (e : Entity) (name : String) (values : List (Field Entity)) :
    (e.replace name values).subject = e.subject := rfl

theorem find?_zip_replaceValues (name n : String) (values : List (Field Entity)) :
    ∀ (ps : List (Property Schema)) (ss : List (Slot Entity)),
      (ps.zip (replaceValues name values ps ss)).find? (·.1.name = n) =
        ((ps.zip ss).find? (·.1.name = n)).map fun entry =>
          if n = name then (entry.1, ⟨entry.2.valueType, values⟩) else entry
  | [], _ => by simp
  | _ :: _, [] => by simp [replaceValues]
  | p :: ps, s :: ss => by
    have ih := find?_zip_replaceValues name n values ps ss
    by_cases hn : p.name = n
    · subst hn
      by_cases hp : p.name = name <;> simp [replaceValues, hp]
    · by_cases hp : p.name = name
      · have hne : n ≠ name := fun h => hn (hp.trans h.symm)
        simp [replaceValues, hp, hne, hne.symm]
      · simp [replaceValues, hn, hp, ih]

/-- **A replacement is seen under its own name only.** -/
theorem lookup?_replace (e : Entity) (name n : String) (values : List (Field Entity)) :
    (e.replace name values).lookup? n = (e.lookup? n).map fun entry =>
      if n = name then (entry.1, ⟨entry.2.valueType, values⟩) else entry :=
  find?_zip_replaceValues name n values e.schema.properties e.slots

end Entity
end ShapeBinding
