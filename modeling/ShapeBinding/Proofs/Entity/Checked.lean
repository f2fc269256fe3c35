import ShapeBinding.Proofs.Bind.Exact
import ShapeBinding.Proofs.Entity.Obtained
/-!
# What a change is checked for

A change of an entity is accepted just when there is a property of the name, every value matches the property and the
type that its slot keeps (`Field.Matches`), and the values are not too many (`Entity.set_eq_ok_iff`).  Otherwise it is
told, in this order, that there is no such property, why the first value that does not match does not
(`Field.Clashes`), or how many values there are (`Entity.set_eq_error_iff`).
-/
namespace ShapeBinding

/-! ## Values that match -/

/-- **A value matches a property** whose slot keeps a type: a literal has that type, and an entity is over a schema of
the nested schema's name. -/
def Field.Matches (p : Property Schema) (type : Option ValueType) : Field Entity → Prop
  | .literal v => ∃ iri, p.kind = .datatype iri ∧ type = some v.type
  | .entity m => ∃ s, p.kind = .nested s ∧ m.schema.name = s.name

/-- **What is told of a value that does not match.**  A slot without a type belongs to a datatype that has no
converter. -/
inductive Field.Clashes (p : Property Schema) : Option ValueType → Field Entity → BindError → Prop
  | noConverter {iri : String} {v : Value} (hk : p.kind = .datatype iri) :
      Clashes p none (.literal v) (.convert p.name (.unsupportedDatatype iri))
  | otherType {iri : String} {type : ValueType} {v : Value} (hk : p.kind = .datatype iri) (hne : v.type ≠ type) :
      Clashes p (some type) (.literal v) p.otherKind
  | literal {s : Schema} {type : Option ValueType} {v : Value} (hk : p.kind = .nested s) :
      Clashes p type (.literal v) p.otherKind
  | entity {iri : String} {type : Option ValueType} {m : Entity} (hk : p.kind = .datatype iri) :
      Clashes p type (.entity m) p.otherKind
  | otherSchema {s : Schema} {type : Option ValueType} {m : Entity} (hk : p.kind = .nested s)
      (hne : m.schema.name ≠ s.name) : Clashes p type (.entity m) p.otherKind

namespace Entity

variable {p : Property Schema} {type : Option ValueType} {f : Field Entity} {err : BindError}

theorem checkKind_eq_ok_iff_matches : checkKind p type f = .ok () ↔ f.Matches p type := by
  cases hk : p.kind with
  | datatype iri =>
    cases f with
    | literal v =>
      cases type with
      | none => simp [checkKind, hk, Field.Matches]
      | some t => simp [checkKind, hk, Field.Matches, eq_comm]
    | entity m => simp [checkKind, hk, Field.Matches]
  | nested s =>
    cases f with
    | literal v => simp [checkKind, hk, Field.Matches]
    | entity m => simp [checkKind, hk, Field.Matches]

theorem checkKind_eq_error_iff : checkKind p type f = .error err ↔ f.Clashes p type err := by
  constructor
  · intro h
    cases hk : p.kind with
    | datatype iri =>
      cases f with
      | literal v =>
        cases type with
        | none =>
          simp only [checkKind, hk, Except.error.injEq] at h
          exact h ▸ .noConverter hk
        | some t =>
          by_cases hv : v.type = t
          · simp [checkKind, hk, hv] at h
          · simp only [checkKind, hk, hv, if_false, Except.error.injEq] at h
            exact h ▸ .otherType hk hv
      | entity m =>
        simp only [checkKind, hk, Except.error.injEq] at h
        exact h ▸ .entity hk
    | nested s =>
      cases f with
      | literal v =>
        simp only [checkKind, hk, Except.error.injEq] at h
        exact h ▸ .literal hk
      | entity m =>
        by_cases hm : m.schema.name = s.name
        · simp [checkKind, hk, hm] at h
        · simp only [checkKind, hk, hm, if_false, Except.error.injEq] at h
          exact h ▸ .otherSchema hk hm
  · intro h
    cases h with
    | noConverter hk => simp [checkKind, hk]
    | otherType hk hne => simp [checkKind, hk, hne]
    | literal hk => simp [checkKind, hk]
    | entity hk => simp [checkKind, hk]
    | otherSchema hk hne => simp [checkKind, hk, hne]

/-! ## Changes that are refused -/

variable {e : Entity} {name : String}

theorem lookup_eq_error_iff : e.lookup name = .error err ↔
    e.lookup? name = none ∧ err = .unknownProperty e.schema.name name := by
  unfold lookup
  cases e.lookup? name with
  | none => simp [eq_comm]
  | some c => simp

theorem set_eq_error_iff {values : List (Field Entity)} : e.set name values = .error err ↔
    (e.lookup? name = none ∧ err = .unknownProperty e.schema.name name) ∨ ∃ c, e.lookup? name = some c ∧
      (FirstFails (fun f => f.Matches c.1 c.2.valueType) (fun f => f.Clashes c.1 c.2.valueType err) values ∨
        (∀ f ∈ values, f.Matches c.1 c.2.valueType) ∧ ∃ max, c.1.maxCount = some max ∧ max.toNat < values.length ∧
          err = .tooManyValues e.schema.name c.1.name max values.length) := by
  have hcheck : e.set name values = .error err ↔ e.checkChange name values = .error err := by
    rw [set, setCall, Call.result_checkThen, bind_eq_error_iff]
    simp only [reduceCtorEq, and_false, exists_false, or_false]
  rw [hcheck, checkChange]
  simp only [bind_eq_error_iff, lookup_eq_error_iff, lookup_eq_ok_iff]
  refine or_congr_right (exists_congr fun c => and_congr_right fun _ => ?_)
  simp only [forM_eq_error_iff, checkKind_eq_ok_iff_matches, checkKind_eq_error_iff, Binder.checkCount_eq_error_iff]
  refine or_congr_right ⟨?_, ?_⟩
  · rintro ⟨_, hkinds, hcount⟩
    exact ⟨fun f hf => checkKind_eq_ok_iff_matches.1 (forM_eq_ok_iff.1 hkinds f hf), hcount⟩
  · rintro ⟨hmatch, hcount⟩
    exact ⟨_, forM_eq_ok_iff.2 fun f hf => checkKind_eq_ok_iff_matches.2 (hmatch f hf), hcount⟩

theorem clear_eq_error_iff : e.clear name = .error err ↔
    e.lookup? name = none ∧ err = .unknownProperty e.schema.name name := by
  rw [clear, clearCall, Call.result_checkThen]
  simp only [bind_eq_error_iff, lookup_eq_error_iff, reduceCtorEq, and_false, exists_false, or_false]

end Entity
end ShapeBinding
