import ShapeBinding.Datatype.Builtin
import ShapeBinding.Proofs.Entity.Obtained
import ShapeBinding.Proofs.WriteBack
/-!
# Trees survive being written

An entity is a tree if its members have subjects of their own and nothing is written in two places
(`Entity.IsTree`).  Under each subject and path there is then one cell only, so that the graph of the triples holds just
what the cell was written as, and reading it gives the cell's values back
(`Catalog.exists_bindType_triples_of_isTree`).
-/
namespace ShapeBinding

namespace Entity

/-- **A tree of entities made with a table of datatypes.** -/
structure IsTree (ds : Datatypes) (e : Entity) : Prop where
  obtained : ∀ n ∈ e.family, n.Obtained ds
  /-- Every nested entity has the very schema that its property names. -/
  nested_schema : ∀ n ∈ e.family, ∀ c ∈ n.cells, ∀ m, .entity m ∈ c.2.values → c.1.kind = .nested m.schema
  subjects_nodup : (e.family.map (·.subject)).Nodup
  nested_isNode : ∀ n ∈ e.family, ∀ m ∈ n.children, m.subject.isNode = true
  paths_nodup : ∀ s, e.schema.Includes s → (s.properties.map (·.path)).Nodup
  paths_ne_type : ∀ s, e.schema.Includes s → ∀ p ∈ s.properties, p.path ≠ Rdf.type
  /-- Every literal value is written as a lexical form that is read as the value. -/
  literals_return : ∀ n ∈ e.family, ∀ c ∈ n.cells, ∀ iri, c.1.kind = .datatype iri → ∀ v, .literal v ∈ c.2.values →
    v.Returns ds iri
  /-- No two values of a property with a datatype are equal. -/
  literals_distinct : ∀ n ∈ e.family, ∀ c ∈ n.cells, ∀ iri, c.1.kind = .datatype iri →
    c.2.values.Pairwise fun f f' => ¬ f.Same f'

namespace IsTree

variable {ds : Datatypes} {e n n' : Entity} {c c' : Property Schema × Slot Entity}

theorem fits (h : e.IsTree ds) : e.Fits ds := fits_of_obtained h.obtained fun n hn c hc m hm =>
  ⟨h.nested_schema n hn c hc m hm, h.nested_isNode n hn m (mem_children.2 ⟨c, hc, hm⟩)⟩

/-- **Subject and path say which cell it is.** -/
theorem cell_unique (h : e.IsTree ds) (hn : n ∈ e.family) (hc : c ∈ n.cells) (hn' : n' ∈ e.family) (hc' : c' ∈ n'.cells)
    (hsubject : n'.subject = n.subject) (hpath : c'.1.path = c.1.path) : c' = c := by
  obtain rfl := List.inj_on_of_nodup_map h.subjects_nodup hn' hn hsubject
  have hpaths : (n'.cells.map (·.1.path)).Nodup := by
    rw [h.fits.map_cells hn (·.path)]
    exact h.paths_nodup n'.schema (h.fits.includes hn)
  exact List.inj_on_of_nodup_map hpaths hc' hc hpath

theorem exists_writes (h : e.IsTree ds) (hn : n ∈ e.family) (hc : c ∈ n.cells) :
    ∃ objects, List.Forall₂ (fun f o => f.Writes ds c.1 o) c.2.values objects :=
  exists_forall₂_iff.2 fun f hf => Field.exists_writes (((h.fits.of_mem_family hn).cell hc).fields f hf)
    fun iri v hk hv => h.literals_return n hn c hc iri hk v (hv ▸ hf)

theorem nodup_of_writes (h : e.IsTree ds) (hn : n ∈ e.family) (hc : c ∈ n.cells) {objects : List Term}
    (ho : List.Forall₂ (fun f o => f.Writes ds c.1 o) c.2.values objects) : objects.Nodup := by
  cases hk : c.1.kind with
  | datatype iri =>
    exact Field.nodup_of_writes hk ho (h.literals_return n hn c hc iri hk) (h.literals_distinct n hn c hc iri hk)
  | nested s =>
    have hsubjects : objects = c.2.entities.map (·.subject) := by
      unfold Slot.entities
      generalize c.2.values = fs at ho
      induction ho with
      | nil => rfl
      | @cons f o fs objects hfo _ ih =>
        cases f with
        | literal v =>
          obtain ⟨_, _, hk', -⟩ := hfo
          rw [hk] at hk'
          cases hk'
        | entity m =>
          rw [ih, hfo.2]
          rfl
    rw [hsubjects]
    have hsublist := (entities_sublist_family hc).trans (family_sublist hn)
    exact (hsublist.map _).nodup h.subjects_nodup

end IsTree
end Entity

/-- **Writing a tree and binding its type gives the tree back**, whether or not the datatypes of literals are checked. -/
theorem Catalog.exists_bindType_triples_of_isTree {o : CompileOptions} {ds₀ : Datatypes} {ns : Namespaces} {g : Graph}
    {c : Catalog} (hc : compile o ds₀ ns g = .ok c) {ds : Datatypes} {e : Entity} (hs : e.schema ∈ c.schemas)
    (he : e.IsTree ds) : ∃ ts, e.triples ds = .ok ts ∧ ∀ strict, ∃ e',
      (Binder.mk c ds strict).bindType (Graph.ofList ts) e.schema.targetType = .ok e' ∧ (e' == e) = true := by
  have hdescribes := describes_of_compile hc
  have hwrites : ∀ n ∈ e.family, ∀ c ∈ n.cells, ∀ f ∈ c.2.values, ∃ o, f.Writes ds c.1 o := fun n hn c hc =>
    exists_forall₂_iff.1 (he.exists_writes hn hc)
  obtain ⟨ts, hts⟩ := Entity.exists_triples_iff.2 hwrites
  have hroots : Binder.roots (Graph.ofList ts) e.schema = [e.subject] := by
    refine Binder.roots_ofList_triples hts (fun n hn htarget => ?_) fun n hn c hc hpath => ?_
    · rw [hdescribes.eq_of_targetType_eq hs he.fits hn htarget]
    · exact absurd hpath (he.paths_ne_type n.schema (he.fits.includes hn) c.1 (List.of_mem_zip hc).1)
  refine ⟨ts, hts, fun strict => ?_⟩
  rw [Binder.exists_bindType_beq_iff hs hroots, Binder.rebinds_iff he.fits]
  intro n hn c hc
  obtain ⟨objects, hobjects⟩ := he.exists_writes hn hc
  have hpath : Term.iri c.1.path ≠ .iri Rdf.type := fun h =>
    he.paths_ne_type n.schema (he.fits.includes hn) c.1 (List.of_mem_zip hc).1 (Term.iri.inj h)
  have hgraph : (Graph.ofList ts).objects n.subject (.iri c.1.path) = objects.eraseDups := by
    refine Entity.objects_ofList_triples hpath hts (fun n' hn' c' hc' hsubject hpath' => ?_) hn hc rfl rfl
    rw [he.cell_unique hn hc hn' hc' hsubject (Term.iri.inj hpath')]
    exact hobjects
  rw [hgraph, eraseDups_of_nodup (he.nodup_of_writes hn hc hobjects)]
  exact (forall₂_flip_mem hobjects).imp fun o f h => Binder.reads_of_writes h.1 fun iri v hk hv =>
    he.literals_return n hn c hc iri hk v (hv ▸ h.2)

/-! ## A person with an address -/

namespace Example

def addressSchema : Schema :=
  ⟨"Address", "http://example.org/Address", none, .iri "http://example.org/AddressShape",
    [⟨"city", "http://example.org/city", .datatype Xsd.string, none, [], none, none⟩]⟩

def personSchema : Schema :=
  ⟨"Person", "http://example.org/Person", none, .iri "http://example.org/PersonShape",
    [⟨"age", "http://example.org/age", .datatype Xsd.integer, some 1, [], none, none⟩,
      ⟨"address", "http://example.org/address", .nested addressSchema, none, [], none, none⟩]⟩

/-- The shapes of the two schemas, the one that refers to the other first. -/
def shapes : Graph := .ofList [
  ⟨.iri "http://example.org/PersonShape", .iri Rdf.type, .iri Sh.nodeShape⟩,
  ⟨.iri "http://example.org/PersonShape", .iri Sh.name, .string "Person"⟩,
  ⟨.iri "http://example.org/PersonShape", .iri Sh.targetClass, .iri "http://example.org/Person"⟩,
  ⟨.iri "http://example.org/PersonShape", .iri Sh.property, .blank "age"⟩,
  ⟨.blank "age", .iri Sh.name, .string "age"⟩,
  ⟨.blank "age", .iri Sh.path, .iri "http://example.org/age"⟩,
  ⟨.blank "age", .iri Sh.datatype, .iri Xsd.integer⟩,
  ⟨.blank "age", .iri Sh.maxCount, .typed "1" Xsd.integer⟩,
  ⟨.iri "http://example.org/PersonShape", .iri Sh.property, .blank "address"⟩,
  ⟨.blank "address", .iri Sh.name, .string "address"⟩,
  ⟨.blank "address", .iri Sh.path, .iri "http://example.org/address"⟩,
  ⟨.blank "address", .iri Sh.node, .iri "http://example.org/AddressShape"⟩,
  ⟨.iri "http://example.org/AddressShape", .iri Rdf.type, .iri Sh.nodeShape⟩,
  ⟨.iri "http://example.org/AddressShape", .iri Sh.name, .string "Address"⟩,
  ⟨.iri "http://example.org/AddressShape", .iri Sh.targetClass, .iri "http://example.org/Address"⟩,
  ⟨.iri "http://example.org/AddressShape", .iri Sh.property, .blank "city"⟩,
  ⟨.blank "city", .iri Sh.name, .string "city"⟩,
  ⟨.blank "city", .iri Sh.path, .iri "http://example.org/city"⟩]

def address : Entity := ⟨addressSchema, .blank "home", [⟨some .string, [.literal (.string "Oslo")]⟩]⟩

def person : Entity :=
  ⟨personSchema, .iri "http://example.org/alice",
    [⟨some .integer, [.literal (.integer 30)]⟩, ⟨none, [.entity address]⟩]⟩

theorem compile_shapes : ((Catalog.compile {} ∅ default shapes).toOption.map (·.schemas)) =
    some [addressSchema, personSchema] := by
  decide +kernel

theorem obtained_address : address.Obtained .builtin :=
  .set (.empty addressSchema (.blank "home")) (rfl : Entity.set _ "city" [.literal (.string "Oslo")] = .ok address)

theorem obtained_person : person.Obtained .builtin := by
  have hage : ((Entity.empty .builtin personSchema (.iri "http://example.org/alice")).set "age"
      [.literal (.integer 30)]) = .ok ⟨personSchema, .iri "http://example.org/alice",
        [⟨some .integer, [.literal (.integer 30)]⟩, ⟨none, []⟩]⟩ := rfl
  exact .set (.set (.empty personSchema _) hage) (rfl : Entity.set _ "address" [.entity address] = .ok person)

theorem includes_personSchema {s : Schema} (h : personSchema.Includes s) : s = personSchema ∨ s = addressSchema := by
  rcases Relation.ReflTransGen.cases_head h with rfl | ⟨t, ht, hts⟩
  · exact .inl rfl
  · obtain rfl : t = addressSchema := List.mem_singleton.1 ht
    rcases Relation.ReflTransGen.cases_head hts with rfl | ⟨u, hu, -⟩
    · exact .inr rfl
    · exact (List.not_mem_nil hu).elim

theorem mem_family_person {n : Entity} (h : n ∈ person.family) : n = person ∨ n = address := by
  have hfamily : person.family = [person, address] := rfl
  simpa [hfamily] using h

theorem cell_cases {n : Entity} (hn : n ∈ person.family) {c : Property Schema × Slot Entity} (hc : c ∈ n.cells) :
    (c.1.kind = .datatype Xsd.integer ∧ c.2.values = [.literal (.integer 30)]) ∨
      (c.1.kind = .nested addressSchema ∧ c.2.values = [.entity address]) ∨
      (c.1.kind = .datatype Xsd.string ∧ c.2.values = [.literal (.string "Oslo")]) := by
  rcases mem_family_person hn with rfl | rfl
  · rcases List.mem_cons.1 hc with rfl | hc
    · exact .inl ⟨rfl, rfl⟩
    · obtain rfl := List.mem_singleton.1 hc
      exact .inr (.inl ⟨rfl, rfl⟩)
  · obtain rfl := List.mem_singleton.1 hc
    exact .inr (.inr ⟨rfl, rfl⟩)

theorem isTree_person : person.IsTree .builtin where
  obtained n hn := by
    rcases mem_family_person hn with rfl | rfl
    · exact obtained_person
    · exact obtained_address
  nested_schema n hn c hc m hm := by
    rcases cell_cases hn hc with ⟨-, hv⟩ | ⟨hk, hv⟩ | ⟨-, hv⟩ <;> rw [hv, List.mem_singleton] at hm <;> cases hm
    exact hk
  subjects_nodup := by decide +kernel
  nested_isNode n hn m hm := by
    obtain ⟨c, hc, hm⟩ := Entity.mem_children.1 hm
    rcases cell_cases hn hc with ⟨-, hv⟩ | ⟨-, hv⟩ | ⟨-, hv⟩ <;> rw [hv, List.mem_singleton] at hm <;> cases hm
    rfl
  paths_nodup s hs := by rcases includes_personSchema hs with rfl | rfl <;> decide
  paths_ne_type s hs := by rcases includes_personSchema hs with rfl | rfl <;> decide
  literals_return n hn c hc iri hk v hm := by
    rcases cell_cases hn hc with ⟨hk', hv⟩ | ⟨hk', hv⟩ | ⟨hk', hv⟩ <;> rw [hk] at hk' <;> cases hk' <;>
      rw [hv, List.mem_singleton] at hm <;> cases hm
    · exact ⟨"30", .integer 30, by decide +kernel, by decide +kernel, by decide⟩
    · exact ⟨"Oslo", .string "Oslo", by decide +kernel, by decide +kernel, by decide⟩
  literals_distinct n hn c hc iri hk := by
    rcases cell_cases hn hc with ⟨-, hv⟩ | ⟨-, hv⟩ | ⟨-, hv⟩ <;> rw [hv] <;> exact List.pairwise_singleton _ _

end Example

open Example in
/-- Binding what was written of the person gives the person back. -/
theorem Catalog.exists_bindType_triples_person : ∃ c, compile {} ∅ default shapes = .ok c ∧
    person.schema ∈ c.schemas ∧ person.IsTree .builtin ∧ ∃ ts, person.triples .builtin = .ok ts ∧ ∀ strict, ∃ e',
      (Binder.mk c .builtin strict).bindType (Graph.ofList ts) person.schema.targetType = .ok e' ∧
        (e' == person) = true := by
  have hcompile := compile_shapes
  cases hc : compile {} ∅ default shapes with
  | error e =>
    rw [hc] at hcompile
    cases hcompile
  | ok c =>
    rw [hc] at hcompile
    have hschemas : c.schemas = [addressSchema, personSchema] := Option.some.inj hcompile
    have hs : person.schema ∈ c.schemas := by
      rw [hschemas]
      exact List.mem_cons_of_mem _ (List.mem_singleton_self _)
    exact ⟨c, rfl, hs, isTree_person, exists_bindType_triples_of_isTree hc hs isTree_person⟩

end ShapeBinding
