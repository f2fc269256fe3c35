import ShapeBinding.Proofs.Compile
import ShapeBinding.Proofs.Schema
/-!
# When a graph compiles, and what its catalog holds

The conditions are put on the graph itself: all shapes can be read, they refer to shapes only and never back to
themselves, their names and their targets are distinct and their datatypes are known where they have to be
(`Graph.Compilable`).  They are exactly what compiling asks for (`Catalog.exists_compile_iff`), and a compiled catalog
describes the shapes of its graph, one schema for each (`Catalog.describes_of_compile`).
-/
namespace ShapeBinding

open Relation (TransGen)

namespace Graph

/-- A shape of the graph has a property that refers to a subject. -/
def ShapeRefers (g : Graph) (x y : Term) : Prop :=
  g.IsShape x ∧ ∃ d, Shape.read g x = .ok d ∧ ∃ q ∈ d.properties, q.kind = some (.nested y)

/-- **What a shapes graph needs in order to be compiled.** -/
structure Compilable (o : CompileOptions) (ds : Datatypes) (g : Graph) : Prop where
  /-- Every shape can be read. -/
  readable : ∀ x, g.IsShape x → ∃ d, Shape.read g x = .ok d
  /-- Only shapes are referred to. -/
  references_shapes : ∀ x y, g.ShapeRefers x y → g.IsShape y
  /-- No shape refers to itself, directly or through others. -/
  acyclic : ∀ x, ¬ TransGen g.ShapeRefers x x
  names_distinct : ∀ x y d e, g.IsShape x → g.IsShape y → Shape.read g x = .ok d → Shape.read g y = .ok e →
    d.name = e.name → x = y
  targets_distinct : ∀ x y d e, g.IsShape x → g.IsShape y → Shape.read g x = .ok d → Shape.read g y = .ok e →
    d.target = e.target → x = y
  /-- Declared and default datatypes have converters, where that is asked for. -/
  datatypes_known : o.requireKnownDatatypes = true → ∀ x d, g.IsShape x → Shape.read g x = .ok d →
    ∀ q ∈ d.properties, ∀ iri, q.datatype? o = some iri → ds.contains iri = true

end Graph

/-- **A schema describes a shape of the graph**: its name, its target and, for every property node in graph order, what
was read there. -/
structure Schema.Describes (o : CompileOptions) (ns : Namespaces) (g : Graph) (schemas : List Schema) (s : Schema) :
    Prop where
  described : ∃ d, Shape.read g s.shape = .ok d ∧ s.name = d.name ∧ s.targetType = d.target
  qualifiedTarget_eq : s.qualifiedTarget = ns.qualify? s.targetType
  properties_eq : List.Forall₂ (fun node p => ∃ q, PropertyShape.read g s.name node = .ok q ∧ p.Compiled o ns schemas q)
    (g.objects s.shape (.iri Sh.property)) s.properties

/-- **A catalog describes a graph**: it has one schema for every shape of the graph, and its schemas refer to each
other. -/
structure Catalog.Describes (o : CompileOptions) (ns : Namespaces) (g : Graph) (c : Catalog) : Prop where
  namespaces_eq : c.namespaces = ns
  shapes_nodup : (c.schemas.map (·.shape)).Nodup
  mem_shapes_iff : ∀ x, x ∈ c.schemas.map (·.shape) ↔ g.IsShape x
  schemas_describe : ∀ s ∈ c.schemas, s.Describes o ns g c.schemas
  byName?_eq : ∀ s ∈ c.schemas, c.byName? s.name = some s

namespace Catalog

variable {o : CompileOptions} {ds : Datatypes} {ns : Namespaces} {g : Graph} {shapes : List Shape} {c : Catalog}

/-! ## From the shapes of a graph to the graph -/

theorem nodup_subjects_of_readAll (h : Shape.readAll g = .ok shapes) : (shapes.map (·.subject)).Nodup := by
  rw [(Shape.readAll_eq_ok_iff.1 h).1]
  exact Shape.nodup_discover g

theorem mem_readAll_iff (h : Shape.readAll g = .ok shapes) {d : Shape} :
    d ∈ shapes ↔ g.IsShape d.subject ∧ Shape.read g d.subject = .ok d := by
  obtain ⟨hsubjects, hread⟩ := Shape.readAll_eq_ok_iff.1 h
  rw [← Shape.mem_discover, ← hsubjects]
  constructor
  · intro hd
    exact ⟨List.mem_map_of_mem hd, hread d hd⟩
  · rintro ⟨hmem, hd⟩
    obtain ⟨e, he, hsubject⟩ := List.mem_map.1 hmem
    have := hread e he
    rw [hsubject, hd] at this
    cases this
    exact he

theorem refers_iff (h : Shape.readAll g = .ok shapes) {x y : Term} : Shape.Refers shapes x y ↔ g.ShapeRefers x y := by
  unfold Shape.Refers Graph.ShapeRefers
  constructor
  · rintro ⟨d, hd, rfl, hy⟩
    obtain ⟨hshape, hread⟩ := (mem_readAll_iff h).1 hd
    exact ⟨hshape, d, hread, Shape.mem_references.1 hy⟩
  · rintro ⟨hshape, d, hread, hq⟩
    obtain rfl := (Shape.read_eq_ok_iff.1 hread).1
    exact ⟨d, (mem_readAll_iff h).2 ⟨hshape, hread⟩, rfl, Shape.mem_references.2 hq⟩

theorem nodup_map_iff (h : Shape.readAll g = .ok shapes) (key : Shape → String) : (shapes.map key).Nodup ↔
    ∀ x y d e, g.IsShape x → g.IsShape y → Shape.read g x = .ok d → Shape.read g y = .ok e → key d = key e → x = y := by
  have hs := nodup_subjects_of_readAll h
  constructor
  · intro hkey x y d e hx hy hd he heq
    obtain rfl := (Shape.read_eq_ok_iff.1 hd).1
    obtain rfl := (Shape.read_eq_ok_iff.1 he).1
    have := List.inj_on_of_nodup_map hkey ((mem_readAll_iff h).2 ⟨hx, hd⟩) ((mem_readAll_iff h).2 ⟨hy, he⟩) heq
    rw [this]
  · intro hdistinct
    refine (List.Nodup.of_map _ hs).map_on fun d hd e he heq => ?_
    obtain ⟨hx, hd'⟩ := (mem_readAll_iff h).1 hd
    obtain ⟨hy, he'⟩ := (mem_readAll_iff h).1 he
    exact List.inj_on_of_nodup_map hs hd he (hdistinct _ _ d e hx hy hd' he' heq)

theorem datatypesAccepted_iff {d : Shape} : d.DatatypesAccepted o ds ↔ (o.requireKnownDatatypes = true →
    ∀ q ∈ d.properties, ∀ iri, q.datatype? o = some iri → ds.contains iri = true) := by
  unfold Shape.DatatypesAccepted CompileOptions.accepts
  cases o.requireKnownDatatypes <;> simp

theorem compilable_iff (h : Shape.readAll g = .ok shapes) : Compilable o ds shapes ↔ g.Compilable o ds := by
  have hsubjects : ∀ y, y ∈ shapes.map (·.subject) ↔ g.IsShape y := fun y => by
    rw [(Shape.readAll_eq_ok_iff.1 h).1, Shape.mem_discover]
  have hrefers : Shape.Refers shapes = g.ShapeRefers := by
    funext x y
    exact propext (refers_iff h)
  constructor
  · intro hc
    refine ⟨fun x hx => ?_, fun x y hxy => ?_, hrefers ▸ hc.acyclic, (nodup_map_iff h _).1 hc.names_nodup,
      (nodup_map_iff h _).1 hc.targets_nodup, fun hreq x d hx hd => ?_⟩
    · obtain ⟨d, hd, rfl⟩ := List.mem_map.1 ((hsubjects x).2 hx)
      exact ⟨d, ((mem_readAll_iff h).1 hd).2⟩
    · obtain ⟨d, hd, rfl, hy⟩ := (refers_iff h).2 hxy
      exact (hsubjects y).1 (hc.references_known d hd y hy)
    · obtain rfl := (Shape.read_eq_ok_iff.1 hd).1
      exact datatypesAccepted_iff.1 (hc.datatypes_accepted d ((mem_readAll_iff h).2 ⟨hx, hd⟩)) hreq
  · intro hg
    refine ⟨fun d hd y hy => ?_, ?_, (nodup_map_iff h _).2 hg.names_distinct, (nodup_map_iff h _).2 hg.targets_distinct,
      fun d hd => ?_⟩
    · exact (hsubjects y).2 (hg.references_shapes d.subject y ((refers_iff h).1 ⟨d, hd, rfl, hy⟩))
    · unfold Shape.Acyclic
      rw [hrefers]
      exact hg.acyclic
    · obtain ⟨hx, hread⟩ := (mem_readAll_iff h).1 hd
      exact datatypesAccepted_iff.2 fun hreq => hg.datatypes_known hreq _ d hx hread

/-! ## Compiling a graph -/

theorem exists_readAll_iff : (∃ shapes, Shape.readAll g = .ok shapes) ↔
    ∀ x, g.IsShape x → ∃ d, Shape.read g x = .ok d := by
  rw [Shape.readAll, exists_mapM_eq_ok_iff]
  simp only [Shape.mem_discover]

/-- **A graph compiles just when it meets the conditions.** -/
theorem exists_compile_iff : (∃ c, compile o ds ns g = .ok c) ↔ g.Compilable o ds := by
  unfold compile
  simp only [bind_eq_ok_iff]
  constructor
  · rintro ⟨c, shapes, h, hc⟩
    exact (compilable_iff h).1 ((exists_ofShapes_iff (nodup_subjects_of_readAll h)).1 ⟨c, hc⟩)
  · intro hg
    obtain ⟨shapes, h⟩ := exists_readAll_iff.2 hg.readable
    obtain ⟨c, hc⟩ := (exists_ofShapes_iff (nodup_subjects_of_readAll h)).2 ((compilable_iff h).2 hg)
    exact ⟨c, shapes, h, hc⟩

/-- **A compiled catalog describes the graph.** -/
theorem describes_of_compile (hc : compile o ds ns g = .ok c) : c.Describes o ns g := by
  obtain ⟨shapes, h, hc⟩ := bind_eq_ok_iff.1 hc
  obtain ⟨ordered, hperm, -, hbuilt⟩ := built_of_ofShapes (nodup_subjects_of_readAll h) hc
  have hshapes : (c.schemas.map (·.shape)).Perm (Shape.discover g) := by
    rw [hbuilt.map_shape, ← (Shape.readAll_eq_ok_iff.1 h).1]
    exact hperm.map _
  refine ⟨hbuilt.namespaces_eq, hshapes.nodup_iff.2 (Shape.nodup_discover g), fun x => ?_, fun s hs => ?_,
    fun s hs => ?_⟩
  · rw [hshapes.mem_iff, Shape.mem_discover]
  · obtain ⟨d, hd, hsd⟩ := exists_left_of_forall₂ hbuilt.schemas_eq hs
    have hread := ((mem_readAll_iff h).1 (hperm.mem_iff.1 hd)).2
    rw [← hsd.shape_eq] at hread
    refine ⟨⟨d, hread, hsd.name_eq, hsd.targetType_eq⟩, hsd.targetType_eq ▸ hsd.qualifiedTarget_eq, ?_⟩
    have hnodes := Shape.forall₂_read hread
    rw [← hsd.name_eq] at hnodes
    exact exists_forall₂_and_iff.1 ⟨_, hnodes, hsd.properties_eq⟩
  · exact byName?_eq_some_iff.2 ⟨hs, rfl⟩

theorem Describes.mem_schemas_of_includes (h : c.Describes o ns g) {s t : Schema} (hs : s ∈ c.schemas)
    (ht : s.Includes t) : t ∈ c.schemas := by
  induction ht with
  | refl => exact hs
  | @tail t u _ hstep ih =>
    obtain ⟨p, hp, hk⟩ := Schema.mem_dependencies.1 hstep
    obtain ⟨node, -, q, -, hpq⟩ := exists_left_of_forall₂ (h.schemas_describe t ih).properties_eq hp
    exact hpq.mem_of_kind_nested hk

/-- **When a graph compiles, and to what.**  Compiling succeeds just when every shape of the graph can be read, shapes
refer to shapes only and never in a circle, their names and their targets are distinct and, where that is asked for,
their datatypes are known.  The catalog then holds one schema for each shape, with what was read of the shape and of its
property nodes in graph order, and a nested property holds the very schema of the shape that it refers to. -/
theorem compile_iff_compilable_and_describes (o : CompileOptions) (ds : Datatypes) (ns : Namespaces) (g : Graph) :
    ((∃ c, compile o ds ns g = .ok c) ↔ g.Compilable o ds) ∧ ∀ c, compile o ds ns g = .ok c → c.Describes o ns g :=
  ⟨exists_compile_iff, fun _ => describes_of_compile⟩

end Catalog
end ShapeBinding
