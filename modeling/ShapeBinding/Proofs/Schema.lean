import Mathlib.Logic.Relation
import ShapeBinding.Schema
/-!
# Induction on schemas

A schema is a finite tree: what holds of a schema as soon as it holds of the schemas nested in it holds of every schema
(`Schema.induction`).  A schema includes itself and all that are nested in it at any depth (`Schema.Includes`).
-/
namespace ShapeBinding

theorem Schema.sizeOf_lt_of_mem_dependencies {s t : Schema} (h : t ∈ s.dependencies) : sizeOf t < sizeOf s := by
  obtain ⟨p, hp, hk⟩ := List.mem_filterMap.1 h
  have hlt := List.sizeOf_lt_of_mem hp
  obtain ⟨name, target, qualified, shape, ps⟩ := s
  obtain ⟨pname, path, kind, max, cs, qpath, qdatatype⟩ := p
  cases kind with
  | datatype iri => cases hk
  | nested u =>
    cases hk
    simp only [Schema.mk.sizeOf_spec, Property.mk.sizeOf_spec, ValueKind.nested.sizeOf_spec] at hlt ⊢
    omega

/-- **Induction on schemas**, by the schemas that are nested in them. -/
theorem Schema.induction {motive : Schema → Prop} (h : ∀ s, (∀ t ∈ s.dependencies, motive t) → motive s) (s : Schema) :
    motive s :=
  h s fun t _ => Schema.induction h t
termination_by sizeOf s
decreasing_by exact Schema.sizeOf_lt_of_mem_dependencies ‹_›

theorem Schema.mem_dependencies {s t : Schema} : t ∈ s.dependencies ↔ ∃ p ∈ s.properties, p.kind = .nested t := by
  unfold Schema.dependencies
  rw [List.mem_filterMap]
  refine exists_congr fun p => and_congr_right fun _ => ?_
  cases h : p.kind <;> simp [Property.nested?, h]

/-- A schema is another one or is nested in it at some depth. -/
def Schema.Includes (s t : Schema) : Prop := Relation.ReflTransGen (fun a b => b ∈ a.dependencies) s t

theorem Schema.Includes.sizeOf_le {s t : Schema} (h : s.Includes t) : sizeOf t ≤ sizeOf s := by
  induction h with
  | refl => exact Nat.le_refl _
  | tail _ hstep ih => exact Nat.le_trans (Nat.le_of_lt (Schema.sizeOf_lt_of_mem_dependencies hstep)) ih

end ShapeBinding
