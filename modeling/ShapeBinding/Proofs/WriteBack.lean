import ShapeBinding.Proofs.Bind
import ShapeBinding.Proofs.Compile.Content
import ShapeBinding.Proofs.Entity.Written
/-!
# Binding what was written

The graph of an entity's triples has one subject of the entity's type, namely the entity's own, if no other member of the
family is of that type or points to it (`Binder.roots_ofList_triples`).  A compiled catalog sees to the first: targets
are distinct, and a schema is not nested in itself (`Catalog.Describes.eq_of_targetType_eq`).  The binding of a type is
then the binding of the entity's subject (`Binder.exists_bindType_beq_iff`).  Literal values that a table of datatypes
returns, once they are written, read as themselves, and distinct ones are written apart (`Binder.reads_of_writes`,
`Field.nodup_of_writes`).
-/
namespace ShapeBinding

/-! ## Literal values -/

/-- **A literal value returns through a table**: it is written as a lexical form that is read as the value. -/
def Value.Returns (ds : Datatypes) (iri : String) (v : Value) : Prop :=
  ∃ lexical w, ds.encode iri v = .ok lexical ∧ ds.decode iri lexical = .ok w ∧ (w == v) = true

section Literals

variable {ds : Datatypes} {p : Property Schema} {iri : String} {f : Field Entity}

theorem Field.exists_writes (hf : f.Fits p.kind) (hreturns : ∀ iri v, p.kind = .datatype iri → f = .literal v →
    v.Returns ds iri) : ∃ o, f.Writes ds p o := by
  cases f with
  | literal v =>
    obtain ⟨iri, hk⟩ := hf
    obtain ⟨lexical, _, hl, -⟩ := hreturns iri v hk rfl
    exact ⟨_, (Field.writes_literal_of_kind hk).2 ⟨lexical, hl, rfl⟩⟩
  | entity m => exact ⟨m.subject, ⟨m.schema, hf.1⟩, rfl⟩

/-- What a value is written as reads as the value, whether or not the datatypes of literals are checked. -/
theorem Binder.reads_of_writes {b : Binder} {o : Term} (ho : f.Writes b.datatypes p o)
    (hreturns : ∀ iri v, p.kind = .datatype iri → f = .literal v → v.Returns b.datatypes iri) : b.Reads p o f := by
  cases f with
  | literal v =>
    obtain ⟨iri, lexical, hk, hl, rfl⟩ := ho
    obtain ⟨lexical', w, hl', hw, hwv⟩ := hreturns iri v hk rfl
    rw [hl] at hl'
    cases hl'
    exact ⟨iri, hk, w, Binder.bindLiteral_eq_ok_iff.2 ⟨_, rfl, fun _ => rfl, hw⟩, hwv⟩
  | entity m => exact ho.2

/-- **Literal values that are pairwise apart are written apart**: one lexical form cannot be read as two of them. -/
theorem Field.nodup_of_writes (hk : p.kind = .datatype iri) {fs : List (Field Entity)} {objects : List Term}
    (ho : List.Forall₂ (fun f o => f.Writes ds p o) fs objects) (hreturns : ∀ v, .literal v ∈ fs → v.Returns ds iri)
    (hdistinct : fs.Pairwise fun f f' => ¬ f.Same f') : objects.Nodup := by
  refine pairwise_of_forall₂ ho hdistinct fun f hf f' hf' o o' hfo hfo' hne heq => hne ?_
  subst heq
  obtain ⟨v, rfl⟩ := hfo.exists_literal hk
  obtain ⟨v', rfl⟩ := hfo'.exists_literal hk
  obtain ⟨lexical, hl, rfl⟩ := (Field.writes_literal_of_kind hk).1 hfo
  obtain ⟨lexical', hl', heq⟩ := (Field.writes_literal_of_kind hk).1 hfo'
  obtain ⟨_, w, hl₁, hw, hwv⟩ := hreturns v hf
  obtain ⟨_, w', hl₂, hw', hwv'⟩ := hreturns v' hf'
  rw [hl] at hl₁
  cases hl₁
  rw [hl'] at hl₂
  cases hl₂
  cases heq
  rw [hw] at hw'
  cases hw'
  exact Field.same_literal.2 (Value.beq_trans (Value.beq_symm hwv) hwv')

end Literals

/-! ## The subject of the type -/

open Binder (roots mem_roots)

theorem Catalog.Describes.eq_of_targetType_eq {o : CompileOptions} {ns : Namespaces} {g : Graph} {c : Catalog}
    (h : c.Describes o ns g) {ds : Datatypes} {e n : Entity} (hs : e.schema ∈ c.schemas) (he : e.Fits ds)
    (hn : n ∈ e.family) (htarget : n.schema.targetType = e.schema.targetType) : n = e := by
  have hschema := h.mem_schemas_of_includes hs (he.includes hn)
  exact he.eq_of_schema_eq hn (List.inj_on_of_nodup_map c.targets_nodup hschema hs htarget)

namespace Binder

variable {b : Binder} {ds : Datatypes} {e : Entity} {ts : List Triple}

/-- **The graph of an entity's triples has one root.** -/
theorem roots_ofList_triples (h : e.triples ds = .ok ts)
    (htypes : ∀ n ∈ e.family, n.schema.targetType = e.schema.targetType → n.subject = e.subject)
    (hvalues : ∀ n ∈ e.family, ∀ c ∈ n.cells, c.1.path = Rdf.type → ∀ f ∈ c.2.values,
      f.Writes ds c.1 (.iri e.schema.targetType) → n.subject = e.subject) :
    roots (Graph.ofList ts) e.schema = [e.subject] := by
  have hmem : ∀ x, x ∈ roots (Graph.ofList ts) e.schema ↔ x ∈ [e.subject] := by
    intro x
    rw [mem_roots, Graph.mem_toList_ofList, Entity.mem_triples h, List.mem_singleton]
    constructor
    · rintro ⟨n, hn, ht | ⟨c, hc, f, hf, o, ho, ht⟩⟩
      · obtain ⟨rfl, -, htype⟩ := Triple.mk.inj ht
        exact htypes n hn (Term.iri.inj htype).symm
      · obtain ⟨rfl, hpath, rfl⟩ := Triple.mk.inj ht
        exact hvalues n hn c hc (Term.iri.inj hpath).symm f hf ho
    · rintro rfl
      exact ⟨e, e.mem_family_self, .inl rfl⟩
  have hnodup : (roots (Graph.ofList ts) e.schema).Nodup := Graph.nodup_subjects ..
  exact List.perm_singleton.1 ((List.perm_ext_iff_of_nodup hnodup (List.nodup_singleton _)).2 hmem)

theorem exists_bindType_beq_iff {g : Graph} (hs : e.schema ∈ b.catalog.schemas)
    (hroots : roots g e.schema = [e.subject]) :
    (∃ e', b.bindType g e.schema.targetType = .ok e' ∧ (e' == e) = true) ↔ b.Rebinds g e := by
  have htarget : b.catalog.byTarget? e.schema.targetType = some e.schema := Catalog.byTarget?_eq_some_iff.2 ⟨hs, rfl⟩
  refine exists_congr fun e' => and_congr_left fun _ => ?_
  rw [bindType_eq_ok_iff]
  constructor
  · rintro ⟨s, root, hfound, hroot, hbound⟩
    rw [htarget] at hfound
    cases hfound
    rw [hroots] at hroot
    cases hroot
    exact hbound
  · intro hbound
    exact ⟨e.schema, e.subject, htarget, hroots, hbound⟩

end Binder
end ShapeBinding
