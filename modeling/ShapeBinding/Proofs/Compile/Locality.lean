import ShapeBinding.Proofs.Compile.Content
import ShapeBinding.Schema.Fingerprint
/-!
# What a schema depends on

Two graphs may hold the triples of different subjects in any interleaving.  What is compiled then depends on the pairs
of each subject alone (`Graph.SamePairs`): the shapes may be discovered, ordered and registered differently, so the
schemas are compared along the references from shape to shape and not along the two compilations
(`Schema.eq_of_agreesFrom`).  A schema depends on even less, namely on what can be reached from its shape through
property nodes (`Graph.AgreesFrom`).
-/
namespace ShapeBinding

open Relation (TransGen ReflTransGen)

namespace Graph

/-! ## Graphs that say the same -/

/-- The graphs say the same of every subject, in the same order. -/
def SamePairs (g g' : Graph) : Prop := ∀ x, g.predicateObjects x = g'.predicateObjects x

/-- A property node of one subject refers to another one. -/
def Links (g : Graph) (x y : Term) : Prop :=
  ∃ node, ⟨x, .iri Sh.property, node⟩ ∈ g.toList ∧ ⟨node, .iri Sh.node, y⟩ ∈ g.toList

/-- **The graphs say the same of a subject and of all that is reached from it**: of every subject that property nodes
lead to, and of every property node on the way. -/
structure AgreesFrom (g g' : Graph) (x : Term) : Prop where
  subjects : ∀ y, ReflTransGen g.Links x y → g.predicateObjects y = g'.predicateObjects y
  nodes : ∀ y, ReflTransGen g.Links x y → ∀ node, ⟨y, .iri Sh.property, node⟩ ∈ g.toList →
    g.predicateObjects node = g'.predicateObjects node

variable {g g' : Graph} {x y : Term}

theorem SamePairs.symm (h : g.SamePairs g') : g'.SamePairs g := fun x => (h x).symm

/-- Only the subjects of triples have to be compared. -/
theorem samePairs_iff : g.SamePairs g' ↔
    ∀ t ∈ g.toList ++ g'.toList, g.predicateObjects t.subject = g'.predicateObjects t.subject := by
  constructor
  · exact fun h t _ => h t.subject
  · intro h x
    by_cases hx : ∃ t ∈ g.toList ++ g'.toList, t.subject = x
    · obtain ⟨t, ht, rfl⟩ := hx
      exact h t ht
    · have hnone : ∀ t ∈ g.toList ++ g'.toList, t.subject ≠ x := fun t ht heq => hx ⟨t, ht, heq⟩
      rw [List.forall_mem_append] at hnone
      rw [predicateObjects_eq_pairsIn, predicateObjects_eq_pairsIn, pairsIn, pairsIn,
        List.filter_eq_nil_iff.2 (by simpa using hnone.1), List.filter_eq_nil_iff.2 (by simpa using hnone.2)]

instance : Decidable (g.SamePairs g') := decidable_of_iff _ samePairs_iff.symm

theorem SamePairs.agreesFrom (h : g.SamePairs g') (x : Term) : g.AgreesFrom g' x :=
  ⟨fun y _ => h y, fun _ _ node _ => h node⟩

theorem AgreesFrom.of_links (h : g.AgreesFrom g' x) (hxy : g.Links x y) : g.AgreesFrom g' y :=
  ⟨fun z hz => h.subjects z (hz.head hxy), fun z hz => h.nodes z (hz.head hxy)⟩

theorem isShape_congr (h : g.predicateObjects x = g'.predicateObjects x) : g.IsShape x ↔ g'.IsShape x := by
  unfold IsShape
  simp only [← mem_predicateObjects, h]

theorem AgreesFrom.isShape_iff (h : g.AgreesFrom g' x) : g.IsShape x ↔ g'.IsShape x :=
  isShape_congr (h.subjects x .refl)

theorem AgreesFrom.read_node (h : g.AgreesFrom g' x) {node : Term} (hnode : node ∈ g.objects x (.iri Sh.property))
    (shape : String) : PropertyShape.read g shape node = PropertyShape.read g' shape node := by
  rw [PropertyShape.read, PropertyShape.read, h.nodes x .refl node (mem_objects.1 hnode)]

theorem AgreesFrom.read_shape (h : g.AgreesFrom g' x) : Shape.read g x = Shape.read g' x :=
  Shape.read_congr (h.subjects x .refl) fun node hnode => h.nodes x .refl node (mem_objects.1 hnode)

end Graph

/-! ## One schema -/

variable {o : CompileOptions} {ds : Datatypes} {ns : Namespaces} {g g' : Graph} {c c' : Catalog}

theorem Property.Compiled.eq {schemas schemas' : List Schema} {q : PropertyShape} {p p' : Property Schema}
    (h : p.Compiled o ns schemas q) (h' : p'.Compiled o ns schemas' q)
    (hnested : ∀ t ∈ schemas, ∀ t' ∈ schemas', p.kind = .nested t → q.kind = some (.nested t.shape) →
      t.shape = t'.shape → t = t') : p = p' := by
  have hkind : p.kind = p'.kind ∧ p.qualifiedDatatype = p'.qualifiedDatatype := by
    cases hk : q.kind with
    | none =>
      obtain ⟨hd, hq⟩ := h.datatype_eq o.defaultDatatype (by rw [PropertyShape.datatype?, hk])
      obtain ⟨hd', hq'⟩ := h'.datatype_eq o.defaultDatatype (by rw [PropertyShape.datatype?, hk])
      exact ⟨hd.trans hd'.symm, hq.trans hq'.symm⟩
    | some kind =>
      cases kind with
      | datatype iri =>
        obtain ⟨hd, hq⟩ := h.datatype_eq iri (by rw [PropertyShape.datatype?, hk])
        obtain ⟨hd', hq'⟩ := h'.datatype_eq iri (by rw [PropertyShape.datatype?, hk])
        exact ⟨hd.trans hd'.symm, hq.trans hq'.symm⟩
      | nested y =>
        obtain ⟨t, ht, rfl, hd, hq⟩ := h.nested_eq y hk
        obtain ⟨t', ht', hshape, hd', hq'⟩ := h'.nested_eq t.shape hk
        rw [hd, hd', hnested t ht t' ht' hd hk hshape.symm]
        exact ⟨rfl, hq.trans hq'.symm⟩
  obtain ⟨name, path, kind, max, cs, qpath, qdatatype⟩ := p
  obtain ⟨name', path', kind', max', cs', qpath', qdatatype'⟩ := p'
  obtain ⟨rfl, rfl⟩ := hkind
  obtain ⟨rfl, rfl, rfl, rfl, rfl, -⟩ := h
  obtain ⟨rfl, rfl, rfl, rfl, rfl, -⟩ := h'
  rfl

/-- **Schemas of one shape are equal if the graphs agree from the shape on.**  By induction on the schema: the schemas of
its nested properties come from shapes that the graph links to. -/
theorem Schema.eq_of_agreesFrom (h : c.Describes o ns g) (h' : c'.Describes o ns g') (s : Schema) :
    s ∈ c.schemas → g.AgreesFrom g' s.shape → ∀ s' ∈ c'.schemas, s.shape = s'.shape → s = s' := by
  induction s using Schema.induction with
  | h s ih =>
    intro hs hagree s' hs' hshape
    obtain ⟨⟨d, hd, hname, htarget⟩, hqualified, hproperties⟩ := h.schemas_describe s hs
    obtain ⟨⟨d', hd', hname', htarget'⟩, hqualified', hproperties'⟩ := h'.schemas_describe s' hs'
    rw [← hshape, ← hagree.read_shape, hd] at hd'
    cases hd'
    rw [← hshape, ← Graph.objects_congr (hagree.subjects _ .refl), hname', ← hname] at hproperties'
    have hps : s.properties = s'.properties := by
      refine eq_of_forall₂ hproperties hproperties' ?_
      rintro node hnode p hp p' ⟨q, hq, hpq⟩ ⟨q', hq', hpq'⟩
      rw [← hagree.read_node hnode, hq] at hq'
      cases hq'
      refine hpq.eq hpq' fun t ht t' ht' hkind hnested hshapes => ?_
      have hlink : g.Links s.shape t.shape :=
        ⟨node, Graph.mem_objects.1 hnode, PropertyShape.mem_toList_of_kind_nested hq hnested⟩
      exact ih t (Schema.mem_dependencies.2 ⟨p, hp, hkind⟩) ht (hagree.of_links hlink) t' ht' hshapes
    obtain ⟨name, target, qualified, shape, ps⟩ := s
    obtain ⟨name', target', qualified', shape', ps'⟩ := s'
    simp only at hname hname' htarget htarget' hqualified hqualified' hshape hps
    rw [hname, hname', hqualified, hqualified', htarget, htarget', hshape, hps]

namespace Catalog

/-! ## Whole catalogs -/

theorem mem_schemas_iff_of_agreesFrom (h : c.Describes o ns g) (h' : c'.Describes o ns g') {x : Term}
    (hagree : g.AgreesFrom g' x) (s : Schema) : s ∈ c.schemas ∧ s.shape = x ↔ s ∈ c'.schemas ∧ s.shape = x := by
  have hshapes : x ∈ c.schemas.map (·.shape) ↔ x ∈ c'.schemas.map (·.shape) := by
    rw [h.mem_shapes_iff, h'.mem_shapes_iff, hagree.isShape_iff]
  constructor
  · rintro ⟨hs, rfl⟩
    obtain ⟨s', hs', hshape⟩ := List.mem_map.1 (hshapes.1 (List.mem_map_of_mem hs))
    rw [Schema.eq_of_agreesFrom h h' s hs hagree s' hs' hshape.symm]
    exact ⟨hs', rfl⟩
  · rintro ⟨hs', rfl⟩
    obtain ⟨s, hs, hshape⟩ := List.mem_map.1 (hshapes.2 (List.mem_map_of_mem hs'))
    rw [← hshape] at hagree
    rw [← Schema.eq_of_agreesFrom h h' s hs hagree _ hs' hshape]
    exact ⟨hs, rfl⟩

theorem mem_schemas_iff_of_samePairs (h : c.Describes o ns g) (h' : c'.Describes o ns g') (hsame : g.SamePairs g')
    (s : Schema) : s ∈ c.schemas ↔ s ∈ c'.schemas := by
  have := mem_schemas_iff_of_agreesFrom h h' (hsame.agreesFrom s.shape) s
  simpa using this

theorem byName?_congr (h : ∀ s, s ∈ c.schemas ↔ s ∈ c'.schemas) (name : String) : c.byName? name = c'.byName? name :=
  Option.ext fun s => by rw [byName?_eq_some_iff, byName?_eq_some_iff, h s]

theorem byTarget?_congr (h : ∀ s, s ∈ c.schemas ↔ s ∈ c'.schemas) (target : String) :
    c.byTarget? target = c'.byTarget? target :=
  Option.ext fun s => by rw [byTarget?_eq_some_iff, byTarget?_eq_some_iff, h s]

end Catalog

namespace Graph

theorem Compilable.congr (h : g.SamePairs g') (hg : g.Compilable o ds) : g'.Compilable o ds := by
  have hshape : g.IsShape = g'.IsShape := by
    funext x
    exact propext (isShape_congr (h x))
  have hread : Shape.read g = Shape.read g' := by
    funext x
    exact (h.agreesFrom x).read_shape
  have hrefers : g.ShapeRefers = g'.ShapeRefers := by
    funext x y
    rw [ShapeRefers, ShapeRefers, hshape, hread]
  obtain ⟨h₁, h₂, h₃, h₄, h₅, h₆⟩ := hg
  rw [hshape, hread] at h₁ h₄ h₅ h₆
  rw [hshape, hrefers] at h₂
  rw [hrefers] at h₃
  exact ⟨h₁, h₂, h₃, h₄, h₅, h₆⟩

end Graph

/-- **The order of the subjects is only a tie-breaker, and a schema depends on its own shape only.**  If two graphs say
the same of every subject, both compile or neither does, and then every name and every type has the same schema and the
same fingerprint in both.  If two graphs that compile agree from a shape on, they have the same schema for it, whatever
else they say. -/
theorem Catalog.compile_depends_on_reached_pairs (o : CompileOptions) (ds : Datatypes) (ns : Namespaces) :
    (∀ g g', g.SamePairs g' →
      ((∃ c, compile o ds ns g = .ok c) ↔ ∃ c', compile o ds ns g' = .ok c') ∧
      ∀ c c', compile o ds ns g = .ok c → compile o ds ns g' = .ok c' →
        (∀ name, c.byName? name = c'.byName? name ∧
          (c.byName? name).map Schema.fingerprint = (c'.byName? name).map Schema.fingerprint) ∧
        (∀ target, c.byTarget? target = c'.byTarget? target ∧
          (c.byTarget? target).map Schema.fingerprint = (c'.byTarget? target).map Schema.fingerprint)) ∧
    ∀ g g' c c' x, compile o ds ns g = .ok c → compile o ds ns g' = .ok c' → g.AgreesFrom g' x →
      ∀ s, s ∈ c.schemas ∧ s.shape = x ↔ s ∈ c'.schemas ∧ s.shape = x := by
  constructor
  · intro g g' hsame
    constructor
    · rw [exists_compile_iff, exists_compile_iff]
      exact ⟨fun h => h.congr hsame, fun h => h.congr hsame.symm⟩
    · intro c c' hc hc'
      have hschemas := mem_schemas_iff_of_samePairs (describes_of_compile hc) (describes_of_compile hc') hsame
      refine ⟨fun name => ?_, fun target => ?_⟩
      · rw [byName?_congr hschemas]
        exact ⟨rfl, rfl⟩
      · rw [byTarget?_congr hschemas]
        exact ⟨rfl, rfl⟩
  · intro g g' c c' x hc hc' hagree
    exact mem_schemas_iff_of_agreesFrom (describes_of_compile hc) (describes_of_compile hc') hagree

/-! ## The shapes of trips in two orders -/

namespace Example

/-- A trip has stops; a tag has nothing to do with them. -/
def tripShapes : Graph := .ofList [
  ⟨.iri "http://example.org/TripShape", .iri Rdf.type, .iri Sh.nodeShape⟩,
  ⟨.iri "http://example.org/TripShape", .iri Sh.targetClass, .iri "http://example.org/Trip"⟩,
  ⟨.iri "http://example.org/TripShape", .iri Sh.property, .blank "stop"⟩,
  ⟨.blank "stop", .iri Sh.name, .string "stop"⟩,
  ⟨.blank "stop", .iri Sh.path, .iri "http://example.org/stop"⟩,
  ⟨.blank "stop", .iri Sh.node, .iri "http://example.org/StopShape"⟩,
  ⟨.iri "http://example.org/StopShape", .iri Rdf.type, .iri Sh.nodeShape⟩,
  ⟨.iri "http://example.org/StopShape", .iri Sh.targetClass, .iri "http://example.org/Stop"⟩,
  ⟨.iri "http://example.org/TagShape", .iri Rdf.type, .iri Sh.nodeShape⟩,
  ⟨.iri "http://example.org/TagShape", .iri Sh.targetClass, .iri "http://example.org/Tag"⟩]

/-- The same is said of every subject, but the subjects take turns, and the tag comes first. -/
def turnedTripShapes : Graph := .ofList [
  ⟨.iri "http://example.org/TagShape", .iri Rdf.type, .iri Sh.nodeShape⟩,
  ⟨.blank "stop", .iri Sh.name, .string "stop"⟩,
  ⟨.iri "http://example.org/StopShape", .iri Rdf.type, .iri Sh.nodeShape⟩,
  ⟨.iri "http://example.org/TripShape", .iri Rdf.type, .iri Sh.nodeShape⟩,
  ⟨.blank "stop", .iri Sh.path, .iri "http://example.org/stop"⟩,
  ⟨.iri "http://example.org/TripShape", .iri Sh.targetClass, .iri "http://example.org/Trip"⟩,
  ⟨.iri "http://example.org/StopShape", .iri Sh.targetClass, .iri "http://example.org/Stop"⟩,
  ⟨.blank "stop", .iri Sh.node, .iri "http://example.org/StopShape"⟩,
  ⟨.iri "http://example.org/TagShape", .iri Sh.targetClass, .iri "http://example.org/Tag"⟩,
  ⟨.iri "http://example.org/TripShape", .iri Sh.property, .blank "stop"⟩]

theorem exists_compile_of_names {g : Graph} {names : List String}
    (h : (Catalog.compile {} ∅ ∅ g).toOption.map (·.schemas.map (·.name)) = some names) :
    ∃ c, Catalog.compile {} ∅ ∅ g = .ok c ∧ c.schemas.map (·.name) = names := by
  cases hc : Catalog.compile {} ∅ ∅ g with
  | error e =>
    rw [hc] at h
    cases h
  | ok c =>
    rw [hc] at h
    exact ⟨c, rfl, Option.some.inj h⟩

end Example

open Example in
/-- The catalogs list the schemas differently, but find the same ones. -/
theorem Catalog.compile_depends_on_reached_pairs_trip : tripShapes.SamePairs turnedTripShapes ∧
    ∃ c c', compile {} ∅ ∅ tripShapes = .ok c ∧ compile {} ∅ ∅ turnedTripShapes = .ok c' ∧
      c.schemas.map (·.name) = ["StopShape", "TripShape", "TagShape"] ∧
      c'.schemas.map (·.name) = ["TagShape", "StopShape", "TripShape"] ∧
      c.byName? "TripShape" = c'.byName? "TripShape" ∧
      (c.byTarget? "http://example.org/Trip").map Schema.fingerprint =
        (c'.byTarget? "http://example.org/Trip").map Schema.fingerprint ∧
      ∀ s, s ∈ c.schemas ∧ s.shape = .iri "http://example.org/TripShape" ↔
        s ∈ c'.schemas ∧ s.shape = .iri "http://example.org/TripShape" := by
  have hsame : tripShapes.SamePairs turnedTripShapes := by decide +kernel
  obtain ⟨c, hc, hnames⟩ : ∃ c, compile {} ∅ ∅ tripShapes = .ok c ∧ _ :=
    exists_compile_of_names (by decide +kernel : _ = some ["StopShape", "TripShape", "TagShape"])
  obtain ⟨c', hc', hnames'⟩ : ∃ c, compile {} ∅ ∅ turnedTripShapes = .ok c ∧ _ :=
    exists_compile_of_names (by decide +kernel : _ = some ["TagShape", "StopShape", "TripShape"])
  obtain ⟨hwhole, hreached⟩ := compile_depends_on_reached_pairs {} ∅ ∅
  obtain ⟨hbyName, hbyTarget⟩ := (hwhole _ _ hsame).2 c c' hc hc'
  exact ⟨hsame, c, c', hc, hc', hnames, hnames', (hbyName "TripShape").1, (hbyTarget "http://example.org/Trip").2,
    hreached _ _ c c' _ hc hc' (hsame.agreesFrom _)⟩

end ShapeBinding
