import ShapeBinding.Bind
import ShapeBinding.Proofs.Entity.Equality
import ShapeBinding.Proofs.Graph.Objects
/-!
# What binding reads

An accepted binding converted every object under every path (`Binder.bindSubject_eq_ok_iff`), and bound every entity
that it nested in the same way (`Binder.bindSubject_of_mem_family`).  The converse tells from the objects of a graph
whether binding gives back an entity that is known already: it does just when, under each property of each member of the
family, the objects read as the values there, where an object reads as a nested entity if it is the entity's subject
(`Binder.rebinds_iff`).
-/
namespace ShapeBinding
namespace Binder

variable {b : Binder} {g : Graph} {x o : Term} {s : Schema} {e : Entity}

/-! ## Accepted steps -/

theorem bindLiteral_eq_ok_iff {property datatype : String} {v : Value} :
    b.bindLiteral property datatype o = .ok v ↔ ∃ l, o = .literal l ∧ (b.strict = true → l.datatype = datatype) ∧
      b.datatypes.decode datatype l.lexical = .ok v := by
  cases o with
  | iri i => simp [bindLiteral]
  | blank l => simp [bindLiteral]
  | literal l =>
    simp only [bindLiteral, Term.literal.injEq, exists_eq_left']
    by_cases h : b.strict = true → l.datatype = datatype
    · rw [if_neg (by simpa using h), and_iff_right h]
      cases b.datatypes.decode datatype l.lexical <;> simp
    · rw [if_pos (by simpa using h)]
      simp [h]

theorem bindObject_datatype_eq_ok_iff {property datatype : String} {f : Field Entity} :
    b.bindObject g property o (.datatype datatype) = .ok f ↔
      ∃ v, b.bindLiteral property datatype o = .ok v ∧ f = .literal v := by
  rw [bindObject, bind_eq_ok_iff]
  exact exists_congr fun v => and_congr_right fun _ => ⟨fun h => by cases h; rfl, fun h => by rw [h]⟩

theorem bindObject_nested_eq_ok_iff {property : String} {f : Field Entity} :
    b.bindObject g property o (.nested s) = .ok f ↔
      o.isNode = true ∧ ∃ e, b.bindSubject g o s = .ok e ∧ f = .entity e := by
  rw [bindObject]
  cases h : o.isLiteral with
  | true => simp [Term.isNode, h]
  | false =>
    rw [if_neg (by decide), bind_eq_ok_iff]
    simp only [Term.isNode, h, Bool.not_false, true_and]
    exact exists_congr fun e => and_congr_right fun _ => ⟨fun h => by cases h; rfl, fun h => by rw [h]⟩

theorem bindProperty_eq_ok_iff {schema : String} {p : Property Schema} {slot : Slot Entity} :
    b.bindProperty g schema x p = .ok slot ↔ slot.valueType = Entity.literalType? b.datatypes p ∧
      p.allows slot.values.length = true ∧
      List.Forall₂ (fun o f => b.bindObject g p.name o p.kind = .ok f) (g.objects x (.iri p.path)) slot.values := by
  rw [bindProperty_eq]
  simp only [bind_eq_ok_iff, mapM_eq_ok_iff]
  constructor
  · rintro ⟨values, h, _, hcount, ⟨⟩⟩
    exact ⟨rfl, Property.checkCount_eq_ok_iff.1 hcount, h⟩
  · rintro ⟨htype, hcount, h⟩
    refine ⟨slot.values, h, ⟨⟩, Property.checkCount_eq_ok_iff.2 hcount, ?_⟩
    rw [← htype]

/-- **An accepted binding read every property**, in order, from the subject's objects under its path. -/
theorem bindSubject_eq_ok_iff : b.bindSubject g x s = .ok e ↔ e.schema = s ∧ e.subject = x ∧
    List.Forall₂ (fun p slot => b.bindProperty g s.name x p = .ok slot) s.properties e.slots := by
  rw [bindSubject_eq, bindProperties_eq_mapM]
  simp only [bind_eq_ok_iff, mapM_eq_ok_iff]
  constructor
  · rintro ⟨slots, h, ⟨⟩⟩
    exact ⟨rfl, rfl, h⟩
  · rintro ⟨rfl, rfl, h⟩
    refine ⟨e.slots, h, ?_⟩
    cases e
    rfl

theorem mem_roots {root : Term} : root ∈ roots g s ↔ ⟨root, .iri Rdf.type, .iri s.targetType⟩ ∈ g.toList :=
  Graph.mem_subjects

theorem bind_eq_ok_iff_roots :
    b.bind g s = .ok e ↔ ∃ root, roots g s = [root] ∧ b.bindSubject g root s = .ok e := by
  unfold bind
  split
  · rename_i h
    simp [h]
  · rename_i root h
    simp [h]
  · rename_i _ hne
    simp only [reduceCtorEq, false_iff]
    rintro ⟨root, h, -⟩
    exact hne root h

/-- **An accepted binding of a type** found one schema and one subject. -/
theorem bindType_eq_ok_iff {target : String} : b.bindType g target = .ok e ↔
    ∃ s root, b.catalog.byTarget? target = some s ∧ roots g s = [root] ∧ b.bindSubject g root s = .ok e := by
  unfold bindType
  cases b.catalog.byTarget? target with
  | none => simp
  | some s => simp [bind_eq_ok_iff_roots]

/-- **The entities that can be bound**, in whichever of the four ways. -/
inductive Yields (b : Binder) (g : Graph) : Entity → Prop
  | subject {x : Term} {s : Schema} {e : Entity} (h : b.bindSubject g x s = .ok e) : Yields b g e
  | only {s : Schema} {e : Entity} (h : b.bind g s = .ok e) : Yields b g e
  | type {target : String} {e : Entity} (h : b.bindType g target = .ok e) : Yields b g e
  | all {s : Schema} {es : List Entity} {e : Entity} (h : b.bindAll g s = .ok es) (he : e ∈ es) : Yields b g e

theorem bindSubject_of_yields (h : b.Yields g e) : b.bindSubject g e.subject e.schema = .ok e := by
  obtain ⟨x, s, h⟩ : ∃ x s, b.bindSubject g x s = .ok e := by
    cases h with
    | subject h => exact ⟨_, _, h⟩
    | only h =>
      obtain ⟨root, -, h⟩ := bind_eq_ok_iff_roots.1 h
      exact ⟨root, _, h⟩
    | type h =>
      obtain ⟨s, root, -, -, h⟩ := bindType_eq_ok_iff.1 h
      exact ⟨root, s, h⟩
    | all h he =>
      obtain ⟨root, -, h⟩ := exists_left_of_forall₂ (mapM_eq_ok_iff.1 h) he
      exact ⟨root, _, h⟩
  obtain ⟨rfl, rfl, -⟩ := bindSubject_eq_ok_iff.1 h
  exact h

/-! ## Bound entities -/

theorem forall₂_cell_of_bindSubject (h : b.bindSubject g x s = .ok e) {c : Property Schema × Slot Entity}
    (hc : c ∈ e.cells) : b.bindProperty g s.name x c.1 = .ok c.2 := by
  obtain ⟨rfl, -, hslots⟩ := bindSubject_eq_ok_iff.1 h
  exact (List.forall₂_iff_zip.1 hslots).2 hc

theorem bindSubject_of_mem_values {schema : String} {p : Property Schema} {slot : Slot Entity} {m : Entity}
    (h : b.bindProperty g schema x p = .ok slot) (hm : .entity m ∈ slot.values) :
    p.kind = .nested m.schema ∧ m.subject.isNode = true ∧ b.bindSubject g m.subject m.schema = .ok m := by
  obtain ⟨o, -, ho⟩ := exists_left_of_forall₂ (bindProperty_eq_ok_iff.1 h).2.2 hm
  cases hk : p.kind with
  | datatype iri =>
    rw [hk, bindObject_datatype_eq_ok_iff] at ho
    obtain ⟨v, -, ⟨⟩⟩ := ho
  | nested t =>
    rw [hk, bindObject_nested_eq_ok_iff] at ho
    obtain ⟨hnode, _, hbound, ⟨⟩⟩ := ho
    obtain ⟨rfl, rfl, -⟩ := bindSubject_eq_ok_iff.1 hbound
    exact ⟨rfl, hnode, hbound⟩

/-- **Every member of a bound entity's family is bound**, from its own subject and to its own schema. -/
theorem bindSubject_of_mem_family (h : b.bindSubject g e.subject e.schema = .ok e) {m : Entity} (hm : m ∈ e.family) :
    b.bindSubject g m.subject m.schema = .ok m := by
  induction e using Entity.induction with
  | h e ih =>
    rcases Entity.mem_family_iff.1 hm with rfl | ⟨n, hn, hmn⟩
    · exact h
    · obtain ⟨c, hc, hf⟩ := Entity.mem_children.1 hn
      exact ih n hn (bindSubject_of_mem_values (forall₂_cell_of_bindSubject h hc) hf).2.2 hmn

theorem fits_of_bindSubject (h : b.bindSubject g e.subject e.schema = .ok e) : e.Fits b.datatypes := by
  intro n hn
  obtain ⟨-, -, hslots⟩ := bindSubject_eq_ok_iff.1 (bindSubject_of_mem_family h hn)
  refine hslots.imp fun p slot hslot => ?_
  obtain ⟨htype, hcount, hvalues⟩ := bindProperty_eq_ok_iff.1 hslot
  refine ⟨htype, hcount, fun f hf => ?_⟩
  cases f with
  | entity m =>
    obtain ⟨hkind, hnode, -⟩ := bindSubject_of_mem_values hslot hf
    exact ⟨hkind, hnode⟩
  | literal v =>
    obtain ⟨o, -, ho⟩ := exists_left_of_forall₂ hvalues hf
    cases hk : p.kind with
    | datatype iri => exact ⟨iri, rfl⟩
    | nested t =>
      rw [hk, bindObject_nested_eq_ok_iff] at ho
      obtain ⟨-, _, -, ⟨⟩⟩ := ho

/-! ## Binding an entity again -/

/-- An object reads as a value of a property: as an equal literal value, or as the subject of a nested entity. -/
def Reads (b : Binder) (p : Property Schema) (o : Term) : Field Entity → Prop
  | .literal v => ∃ iri, p.kind = .datatype iri ∧ ∃ w, b.bindLiteral p.name iri o = .ok w ∧ (w == v) = true
  | .entity m => o = m.subject

/-- Binding gives an entity equal to the one given. -/
def Rebinds (b : Binder) (g : Graph) (e : Entity) : Prop :=
  ∃ e', b.bindSubject g e.subject e.schema = .ok e' ∧ (e' == e) = true

theorem exists_bindObject_same_iff {p : Property Schema} {f : Field Entity} (hf : f.Fits p.kind) :
    (∃ f', b.bindObject g p.name o p.kind = .ok f' ∧ f'.Same f) ↔
      b.Reads p o f ∧ ∀ m, f = .entity m → b.Rebinds g m := by
  cases f with
  | literal v =>
    obtain ⟨iri, hk⟩ := hf
    simp only [hk, bindObject_datatype_eq_ok_iff, Reads, ValueKind.datatype.injEq, exists_eq_left', reduceCtorEq,
      false_implies, implies_true, and_true]
    constructor
    · rintro ⟨_, ⟨w, hw, rfl⟩, hsame⟩
      exact ⟨w, hw, Field.same_literal.1 hsame⟩
    · rintro ⟨w, hw, hsame⟩
      exact ⟨_, ⟨w, hw, rfl⟩, Field.same_literal.2 hsame⟩
  | entity m =>
    obtain ⟨hk, hnode⟩ := hf
    simp only [hk, bindObject_nested_eq_ok_iff, Reads, Field.entity.injEq, forall_eq', Rebinds]
    constructor
    · rintro ⟨_, ⟨-, m', hm', rfl⟩, hsame⟩
      have heq := Field.same_entity.1 hsame
      have hsubject := (bindSubject_eq_ok_iff.1 hm').2.1
      rw [(Entity.beq_iff.1 heq).2.1] at hsubject
      exact ⟨hsubject.symm, m', hsubject ▸ hm', heq⟩
    · rintro ⟨rfl, m', hm', heq⟩
      exact ⟨_, ⟨hnode, m', hm', rfl⟩, Field.same_entity.2 heq⟩

theorem exists_bindProperty_same_iff {schema : String} {p : Property Schema} {slot : Slot Entity}
    (hslot : slot.Fits b.datatypes p) :
    (∃ slot', b.bindProperty g schema x p = .ok slot' ∧ slot'.Same slot) ↔
      List.Forall₂ (b.Reads p) (g.objects x (.iri p.path)) slot.values ∧
        ∀ m, .entity m ∈ slot.values → b.Rebinds g m := by
  have hvalues : (∃ slot', b.bindProperty g schema x p = .ok slot' ∧ slot'.Same slot) ↔
      List.Forall₂ (fun o f => ∃ f', b.bindObject g p.name o p.kind = .ok f' ∧ f'.Same f)
        (g.objects x (.iri p.path)) slot.values := by
    rw [← exists_forall₂_and_iff]
    simp only [bindProperty_eq_ok_iff, Slot.Same]
    constructor
    · rintro ⟨slot', ⟨-, -, hbound⟩, -, hsame⟩
      exact ⟨_, hbound, hsame⟩
    · rintro ⟨values, hbound, hsame⟩
      refine ⟨⟨slot.valueType, values⟩, ⟨hslot.valueType_eq, ?_, hbound⟩, rfl, hsame⟩
      rw [hsame.length_eq]
      exact hslot.allows
  rw [hvalues, forall₂_congr_of_mem_right fun f hf o => exists_bindObject_same_iff (hslot.fields f hf),
    forall₂_and_right]
  exact and_congr_right fun _ => ⟨fun h m hm => h _ hm m rfl, fun h f hf m hm => h m (hm ▸ hf)⟩

theorem rebinds_iff_of_fits (h : e.Fits b.datatypes) : b.Rebinds g e ↔
    (∀ c ∈ e.cells, List.Forall₂ (b.Reads c.1) (g.objects e.subject (.iri c.1.path)) c.2.values) ∧
      ∀ m ∈ e.children, b.Rebinds g m := by
  have hfits := h e (Entity.mem_family_self e)
  have hslots : b.Rebinds g e ↔ List.Forall₂ (fun p slot => ∃ slot', b.bindProperty g e.schema.name e.subject p =
      .ok slot' ∧ slot'.Same slot) e.schema.properties e.slots := by
    rw [← exists_forall₂_and_iff]
    simp only [Rebinds, bindSubject_eq_ok_iff, Entity.beq_iff]
    constructor
    · rintro ⟨e', ⟨-, -, hbound⟩, -, -, hsame⟩
      exact ⟨_, hbound, hsame⟩
    · rintro ⟨slots, hbound, hsame⟩
      exact ⟨⟨e.schema, e.subject, slots⟩, ⟨rfl, rfl, hbound⟩, rfl, rfl, hsame⟩
  rw [hslots, List.forall₂_iff_zip]
  constructor
  · rintro ⟨-, hcells⟩
    have hcell := fun c (hc : c ∈ e.cells) => (exists_bindProperty_same_iff (h.cell hc)).1 (@hcells c.1 c.2 hc)
    refine ⟨fun c hc => (hcell c hc).1, fun m hm => ?_⟩
    obtain ⟨c, hc, hf⟩ := Entity.mem_children.1 hm
    exact (hcell c hc).2 m hf
  · rintro ⟨hreads, hchildren⟩
    refine ⟨hfits.length_eq, fun {p slot} hc => (exists_bindProperty_same_iff (h.cell hc)).2 ⟨hreads _ hc, ?_⟩⟩
    intro m hm
    exact hchildren m (Entity.mem_children.2 ⟨_, hc, hm⟩)

/-- **When binding gives an entity back**: the objects have to read as the values, under each property of each member of
the family. -/
theorem rebinds_iff (h : e.Fits b.datatypes) : b.Rebinds g e ↔ ∀ n ∈ e.family, ∀ c ∈ n.cells,
    List.Forall₂ (b.Reads c.1) (g.objects n.subject (.iri c.1.path)) c.2.values := by
  induction e using Entity.induction with
  | h e ih =>
    have hchild : ∀ m ∈ e.children, m.Fits b.datatypes := fun m hm =>
      h.of_mem_family (Entity.mem_family_of_mem_children hm (Entity.mem_family_self m))
    rw [rebinds_iff_of_fits h]
    constructor
    · rintro ⟨hreads, hchildren⟩ n hn
      rcases Entity.mem_family_iff.1 hn with rfl | ⟨m, hm, hnm⟩
      · exact hreads
      · exact (ih m hm (hchild m hm)).1 (hchildren m hm) n hnm
    · intro hall
      refine ⟨hall e (Entity.mem_family_self e), fun m hm => (ih m hm (hchild m hm)).2 fun n hn => ?_⟩
      exact hall n (Entity.mem_family_of_mem_children hm hn)

end Binder
end ShapeBinding
