import ShapeBinding.Proofs.Entity.Family
/-!
# Equality of values and of entities

`==` compares literal values as values, so it is not reflexive: no entity that holds a double which is not a number is
equal to itself.  It is symmetric and transitive on values (`Value.beq_symm`, `Value.beq_trans`), it is equality wherever
there is no double (`Value.beq_iff_eq`), and two entities are equal if they are over one schema and one subject and their
slots are equal value by value (`Entity.beq_iff`).
-/
namespace ShapeBinding

/-! ## Values -/

namespace Double

theorem beq_iff {x y : Double} : (x == y) = true ↔
    x.isNaN = false ∧ y.isNaN = false ∧ (x = y ∨ x.isZero = true ∧ y.isZero = true) := by
  obtain ⟨a⟩ := x
  obtain ⟨b⟩ := y
  change numEq _ _ = true ↔ _
  simp [numEq, and_assoc]

theorem beq_symm {x y : Double} (h : (x == y) = true) : (y == x) = true := by
  rw [beq_iff] at h ⊢
  obtain ⟨hx, hy, h⟩ := h
  exact ⟨hy, hx, h.imp Eq.symm And.symm⟩

theorem beq_trans {x y z : Double} (hxy : (x == y) = true) (hyz : (y == z) = true) : (x == z) = true := by
  rw [beq_iff] at hxy hyz ⊢
  obtain ⟨hx, -, rfl | ⟨hx0, hy0⟩⟩ := hxy
  · exact hyz
  · obtain ⟨-, hz, rfl | ⟨-, hz0⟩⟩ := hyz
    · exact ⟨hx, hz, .inr ⟨hx0, hy0⟩⟩
    · exact ⟨hx, hz, .inr ⟨hx0, hz0⟩⟩

end Double

namespace Value

theorem beq_iff_eq {v w : Value} (hw : w.type ≠ .double) : (v == w) = true ↔ v = w := by
  change valueEq v w = true ↔ v = w
  cases w with
  | double y => exact absurd rfl hw
  | _ => cases v <;> simp [valueEq]

theorem double_of_beq {v : Value} {y : Double} (h : (v == .double y) = true) :
    ∃ x, v = .double x ∧ (x == y) = true := by
  change valueEq v _ = true at h
  cases v with
  | double x => exact ⟨x, rfl, h⟩
  | _ => simp [valueEq] at h

theorem beq_symm {v w : Value} (h : (v == w) = true) : (w == v) = true := by
  cases w with
  | double y =>
    obtain ⟨x, rfl, hxy⟩ := double_of_beq h
    exact Double.beq_symm hxy
  | _ =>
    obtain rfl := (beq_iff_eq (by simp [type])).1 h
    exact h

theorem beq_trans {u v w : Value} (huv : (u == v) = true) (hvw : (v == w) = true) : (u == w) = true := by
  cases w with
  | double z =>
    obtain ⟨y, rfl, hyz⟩ := double_of_beq hvw
    obtain ⟨x, rfl, hxy⟩ := double_of_beq huv
    exact Double.beq_trans hxy hyz
  | _ =>
    obtain rfl := (beq_iff_eq (by simp [type])).1 hvw
    exact huv

end Value

/-! ## Entities -/

/-- Values under a property are equal. -/
def Field.Same (f f' : Field Entity) : Prop := Entity.valueEqField f f' = true

/-- Slots are equal value by value. -/
def Slot.Same (s s' : Slot Entity) : Prop := s.valueType = s'.valueType ∧ List.Forall₂ Field.Same s.values s'.values

@[simp] theorem Field.same_literal {v w : Value} : (literal v).Same (literal w) ↔ (v == w) = true := by
  rw [Same, Entity.valueEqField]

@[simp] theorem Field.same_entity {e e' : Entity} : (entity e).Same (entity e') ↔ (e == e') = true := by
  rw [Same, Entity.valueEqField]
  rfl

namespace Entity

theorem valueEqFields_iff : ∀ {fs gs : List (Field Entity)},
    valueEqFields fs gs = true ↔ List.Forall₂ Field.Same fs gs
  | [], [] => by simp [valueEqFields]
  | [], _ :: _ => by simp [valueEqFields]
  | _ :: _, [] => by simp [valueEqFields]
  | f :: fs, g :: gs => by
    rw [valueEqFields, Bool.and_eq_true, List.forall₂_cons, valueEqFields_iff]
    rfl

theorem valueEqSlots_iff : ∀ {ss ts : List (Slot Entity)}, valueEqSlots ss ts = true ↔ List.Forall₂ Slot.Same ss ts
  | [], [] => by simp [valueEqSlots]
  | [], _ :: _ => by simp [valueEqSlots]
  | _ :: _, [] => by simp [valueEqSlots]
  | ⟨type, values⟩ :: ss, ⟨type', values'⟩ :: ts => by
    rw [valueEqSlots, valueEqSlot, Bool.and_eq_true, Bool.and_eq_true, decide_eq_true_eq, List.forall₂_cons,
      valueEqFields_iff, valueEqSlots_iff, Slot.Same]

/-- **Two entities are equal** if they have one schema, one subject and equal slots. -/
theorem beq_iff {e e' : Entity} : (e == e') = true ↔
    e.schema = e'.schema ∧ e.subject = e'.subject ∧ List.Forall₂ Slot.Same e.slots e'.slots := by
  obtain ⟨schema, subject, slots⟩ := e
  obtain ⟨schema', subject', slots'⟩ := e'
  change valueEq _ _ = true ↔ _
  rw [valueEq, Bool.and_eq_true, Bool.and_eq_true, decide_eq_true_eq, decide_eq_true_eq, valueEqSlots_iff, and_assoc]

end Entity
end ShapeBinding
