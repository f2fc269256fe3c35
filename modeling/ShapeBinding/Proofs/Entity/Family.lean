import ShapeBinding.Entity
import ShapeBinding.Proofs.Accepted
import ShapeBinding.Proofs.Schema
/-!
# Entities as trees

An entity has a slot under each property of its schema (`Entity.cells`), and the entities in its slots are its children
(`Entity.children`).  Entities are finite trees, so a proof about an entity may take for granted what it shows of the
children (`Entity.induction`).  The family of an entity is the entity itself and all that are nested in it at any depth,
each as often as it stands there (`Entity.family`).
-/
namespace ShapeBinding

/-- The entities in a slot. -/
def Slot.entities (s : Slot Entity) : List Entity := s.values.filterMap Field.entity?

theorem Slot.mem_entities {s : Slot Entity} {m : Entity} : m ∈ s.entities ↔ .entity m ∈ s.values := by
  unfold Slot.entities
  rw [List.mem_filterMap]
  constructor
  · rintro ⟨f, hf, h⟩
    cases f with
    | literal v => cases h
    | entity n =>
      cases h
      exact hf
  · intro h
    exact ⟨_, h, rfl⟩

namespace Entity

/-! ## Cells and children -/

/-- The properties of the schema with their slots. -/
def cells (e : Entity) : List (Property Schema × Slot Entity) := e.schema.properties.zip e.slots

/-- The entities under the properties, in order. -/
def children (e : Entity) : List Entity := e.cells.flatMap fun c => c.2.entities

theorem mem_children {e m : Entity} : m ∈ e.children ↔ ∃ c ∈ e.cells, .entity m ∈ c.2.values := by
  simp only [children, List.mem_flatMap, Slot.mem_entities]

theorem sizeOf_lt_of_mem_children {e m : Entity} (h : m ∈ e.children) : sizeOf m < sizeOf e := by
  obtain ⟨⟨p, slot⟩, hc, hm⟩ := mem_children.1 h
  have hslot := List.sizeOf_lt_of_mem (List.of_mem_zip hc).2
  have hfield := List.sizeOf_lt_of_mem hm
  obtain ⟨schema, subject, slots⟩ := e
  obtain ⟨type, values⟩ := slot
  simp only [Entity.mk.sizeOf_spec, Slot.mk.sizeOf_spec, Field.entity.sizeOf_spec] at hslot hfield ⊢
  omega

/-- **Induction on entities**, by the entities that are nested in them. -/
theorem induction {motive : Entity → Prop} (h : ∀ e, (∀ m ∈ e.children, motive m) → motive e) (e : Entity) : motive e :=
  h e fun m _ => induction h m
termination_by sizeOf e
decreasing_by exact sizeOf_lt_of_mem_children ‹_›

/-! ## Families -/

mutual

/-- The entity and all that are nested in it, each before those that are nested in it. -/
def family : Entity → List Entity
  | ⟨schema, subject, slots⟩ => ⟨schema, subject, slots⟩ :: familySlots schema.properties slots

def familySlots : List (Property Schema) → List (Slot Entity) → List Entity
  | _ :: ps, s :: ss => familySlot s ++ familySlots ps ss
  | _, _ => []

def familySlot : Slot Entity → List Entity
  | ⟨_, values⟩ => familyFields values

def familyFields : List (Field Entity) → List Entity
  | [] => []
  | f :: fs => familyField f ++ familyFields fs

def familyField : Field Entity → List Entity
  | .literal _ => []
  | .entity e => family e

end

theorem familyFields_eq : ∀ fs : List (Field Entity), familyFields fs = (fs.filterMap Field.entity?).flatMap family
  | [] => by rw [familyFields, List.filterMap_nil, List.flatMap_nil]
  | .literal v :: fs => by
    rw [familyFields, familyField, List.nil_append, familyFields_eq fs, List.filterMap_cons_none rfl]
  | .entity e :: fs => by
    rw [familyFields, familyField, familyFields_eq fs]
    rfl

theorem familySlots_eq : ∀ (ps : List (Property Schema)) (ss : List (Slot Entity)),
    familySlots ps ss = ((ps.zip ss).flatMap fun c => c.2.entities).flatMap family
  | [], _ => by rw [familySlots, List.zip_nil_left, List.flatMap_nil, List.flatMap_nil]; nofun
  | _ :: _, [] => by rw [familySlots, List.zip_nil_right, List.flatMap_nil, List.flatMap_nil]; nofun
  | p :: ps, ⟨type, values⟩ :: ss => by
    rw [familySlots, familySlot, familyFields_eq, familySlots_eq ps ss, List.zip_cons_cons, List.flatMap_cons,
      List.flatMap_append, Slot.entities]

/-- **A family is the entity and the families of its children.** -/
theorem family_eq (e : Entity) : e.family = e :: e.children.flatMap family := by
  obtain ⟨schema, subject, slots⟩ := e
  rw [family, familySlots_eq, children, cells]

theorem mem_family_iff {e m : Entity} : m ∈ e.family ↔ m = e ∨ ∃ n ∈ e.children, m ∈ n.family := by
  rw [family_eq, List.mem_cons, List.mem_flatMap]

theorem mem_family_self (e : Entity) : e ∈ e.family := mem_family_iff.2 (.inl rfl)

theorem mem_family_of_mem_children {e m n : Entity} (hn : n ∈ e.children) (hm : m ∈ n.family) : m ∈ e.family :=
  mem_family_iff.2 (.inr ⟨n, hn, hm⟩)

theorem mem_family_trans {e m n : Entity} (hm : m ∈ e.family) (hn : n ∈ m.family) : n ∈ e.family := by
  induction e using Entity.induction with
  | h e ih =>
    rcases mem_family_iff.1 hm with rfl | ⟨k, hk, hmk⟩
    · exact hn
    · exact mem_family_of_mem_children hk (ih k hk hmk)

theorem family_sublist {e m : Entity} (h : m ∈ e.family) : m.family.Sublist e.family := by
  induction e using Entity.induction with
  | h e ih =>
    rcases mem_family_iff.1 h with rfl | ⟨n, hn, hm⟩
    · exact List.Sublist.refl _
    · rw [family_eq e, List.flatMap_def]
      exact ((ih n hn hm).trans (List.sublist_flatten_of_mem (List.mem_map_of_mem hn))).cons _

theorem entities_sublist_family {e : Entity} {c : Property Schema × Slot Entity} (hc : c ∈ e.cells) :
    c.2.entities.Sublist e.family := by
  have hchildren : c.2.entities.Sublist e.children := by
    rw [children, List.flatMap_def]
    exact List.sublist_flatten_of_mem (List.mem_map_of_mem hc)
  have hheads : ∀ ms : List Entity, ms.Sublist (ms.flatMap family) := by
    intro ms
    induction ms with
    | nil => exact .slnil
    | cons m ms ih =>
      rw [List.flatMap_cons, family_eq m, List.cons_append]
      exact (ih.trans (List.sublist_append_right ..)).cons_cons m
  rw [family_eq]
  exact (hchildren.trans (hheads _)).cons e

end Entity

/-! ## Entities that fit their schemas -/

/-- A value is of a kind: a literal under a datatype, or an entity over the very schema that is nested there, which has a
node as its subject. -/
def Field.Fits (kind : ValueKind Schema) : Field Entity → Prop
  | .literal _ => ∃ iri, kind = .datatype iri
  | .entity m => kind = .nested m.schema ∧ m.subject.isNode = true

/-- A slot holds what its property may hold. -/
structure Slot.Fits (ds : Datatypes) (p : Property Schema) (s : Slot Entity) : Prop where
  valueType_eq : s.valueType = Entity.literalType? ds p
  allows : p.allows s.values.length = true
  fields : ∀ f ∈ s.values, f.Fits p.kind

/-- **Every member of the family fits its schema**, property by property. -/
def Entity.Fits (ds : Datatypes) (e : Entity) : Prop :=
  ∀ n ∈ e.family, List.Forall₂ (Slot.Fits ds) n.schema.properties n.slots

namespace Entity.Fits

variable {ds : Datatypes} {e m : Entity}

theorem of_mem_family (h : e.Fits ds) (hm : m ∈ e.family) : m.Fits ds := fun n hn => h n (mem_family_trans hm hn)

theorem cell (h : e.Fits ds) {c : Property Schema × Slot Entity} (hc : c ∈ e.cells) : c.2.Fits ds c.1 :=
  (List.forall₂_iff_zip.1 (h e (mem_family_self e))).2 hc

theorem map_cells (h : e.Fits ds) (hm : m ∈ e.family) {α : Type} (key : Property Schema → α) :
    m.cells.map (fun c => key c.1) = m.schema.properties.map key := by
  conv_rhs => rw [← List.map_fst_zip (Nat.le_of_eq (h m hm).length_eq)]
  rw [List.map_map, cells]
  rfl

theorem schema_mem_dependencies (h : e.Fits ds) (hm : m ∈ e.children) : m.schema ∈ e.schema.dependencies := by
  obtain ⟨c, hc, hf⟩ := mem_children.1 hm
  exact Schema.mem_dependencies.2 ⟨c.1, (List.of_mem_zip hc).1, ((h.cell hc).fields _ hf).1⟩

theorem includes (h : e.Fits ds) (hm : m ∈ e.family) : e.schema.Includes m.schema := by
  induction e using Entity.induction with
  | h e ih =>
    rcases mem_family_iff.1 hm with rfl | ⟨n, hn, hmn⟩
    · exact .refl
    · exact (ih n hn (h.of_mem_family (mem_family_of_mem_children hn (mem_family_self n))) hmn).head
        (h.schema_mem_dependencies hn)

/-- **No other member of a family is over the schema of the entity.** -/
theorem eq_of_schema_eq (h : e.Fits ds) (hm : m ∈ e.family) (hschema : m.schema = e.schema) : m = e := by
  rcases mem_family_iff.1 hm with rfl | ⟨n, hn, hmn⟩
  · rfl
  · have hlt := Schema.sizeOf_lt_of_mem_dependencies (h.schema_mem_dependencies hn)
    have hle := ((h.of_mem_family (mem_family_of_mem_children hn (mem_family_self n))).includes hmn).sizeOf_le
    rw [hschema] at hle
    omega

end Entity.Fits
end ShapeBinding
