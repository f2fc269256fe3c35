import ShapeBinding.Compile
import ShapeBinding.Proofs.Catalog
import ShapeBinding.Proofs.Precedence
import ShapeBinding.Proofs.Shape
/-!
# What a catalog is compiled from

A catalog in the making is `Built` from the shapes that were added so far: schema by schema it says what its shapes say,
and what a property refers to is the one schema with that subject among those there already.  A shape is added just when
its datatypes are accepted and its name and its target are new (`exists_addShape_iff`), since the order of precedence
lets every reference be found; so all shapes are compiled just when the conditions hold of all of them together
(`exists_ofShapes_iff`).
-/
namespace ShapeBinding

/-! ## What a schema says of its shape -/

/-- The datatype of a property shape: the declared one, or the default where it declares no kind. -/
def PropertyShape.datatype? (o : CompileOptions) (q : PropertyShape) : Option String :=
  match q.kind with
  | none => some o.defaultDatatype
  | some (.datatype iri) => some iri
  | some (.nested _) => none

/-- **A property says what its property shape says**, and refers to one of the given schemas. -/
structure Property.Compiled (o : CompileOptions) (ns : Namespaces) (schemas : List Schema) (q : PropertyShape)
    (p : Property Schema) : Prop where
  name_eq : p.name = q.name
  path_eq : p.path = q.path
  maxCount_eq : p.maxCount = q.maxCount
  constraints_eq : p.constraints = q.constraints
  qualifiedPath_eq : p.qualifiedPath = ns.qualify? q.path
  datatype_eq : ∀ iri, q.datatype? o = some iri → p.kind = .datatype iri ∧ p.qualifiedDatatype = ns.qualify? iri
  nested_eq : ∀ y, q.kind = some (.nested y) →
    ∃ t ∈ schemas, t.shape = y ∧ p.kind = .nested t ∧ p.qualifiedDatatype = none

/-- **A schema says what its shape says**, property by property. -/
structure Schema.Compiled (o : CompileOptions) (ns : Namespaces) (schemas : List Schema) (d : Shape) (s : Schema) :
    Prop where
  name_eq : s.name = d.name
  targetType_eq : s.targetType = d.target
  qualifiedTarget_eq : s.qualifiedTarget = ns.qualify? d.target
  shape_eq : s.shape = d.subject
  properties_eq : List.Forall₂ (Property.Compiled o ns schemas) d.properties s.properties

variable {o : CompileOptions} {ds : Datatypes} {ns : Namespaces} {shapes : List Shape} {c : Catalog}

theorem Property.Compiled.mono {schemas schemas' : List Schema} {q : PropertyShape} {p : Property Schema}
    (hsub : schemas ⊆ schemas') (h : p.Compiled o ns schemas q) : p.Compiled o ns schemas' q :=
  { h with
    nested_eq := fun y hy => by
      obtain ⟨t, ht, hrest⟩ := h.nested_eq y hy
      exact ⟨t, hsub ht, hrest⟩ }

theorem Schema.Compiled.mono {schemas schemas' : List Schema} {d : Shape} {s : Schema} (hsub : schemas ⊆ schemas')
    (h : s.Compiled o ns schemas d) : s.Compiled o ns schemas' d :=
  { h with properties_eq := h.properties_eq.imp fun _ _ hp => hp.mono hsub }

theorem Property.Compiled.mem_of_kind_nested {schemas : List Schema} {q : PropertyShape} {p : Property Schema}
    (h : p.Compiled o ns schemas q) {t : Schema} (hk : p.kind = .nested t) : t ∈ schemas := by
  cases hq : q.kind with
  | none =>
    have := (h.datatype_eq o.defaultDatatype (by rw [PropertyShape.datatype?, hq])).1
    rw [hk] at this
    cases this
  | some kind =>
    cases kind with
    | datatype iri =>
      have := (h.datatype_eq iri (by rw [PropertyShape.datatype?, hq])).1
      rw [hk] at this
      cases this
    | nested y =>
      obtain ⟨u, hu, -, hku, -⟩ := h.nested_eq y hq
      rw [hk] at hku
      cases hku
      exact hu

/-! ## Compiling one shape -/

/-- The datatypes of a shape's properties are accepted. -/
def Shape.DatatypesAccepted (o : CompileOptions) (ds : Datatypes) (d : Shape) : Prop :=
  ∀ q ∈ d.properties, ∀ iri, q.datatype? o = some iri → o.accepts ds iri = true

/-- The look-up by name finds, for a subject, the schemas with that subject. -/
def Catalog.Resolves (shapes : List Shape) (c : Catalog) (y : Term) : Prop :=
  (∃ t ∈ c.schemas, t.shape = y) ∧
    ∀ t, (Shape.nameOf? shapes y).bind c.byName? = some t ↔ t ∈ c.schemas ∧ t.shape = y

namespace PropertyShape

theorem known_eq_ok_iff {shape : String} {q : PropertyShape} {iri : String} {kind : ValueKind Schema} :
    compileKind.known o ds shape q iri = .ok kind ↔ o.accepts ds iri = true ∧ kind = .datatype iri := by
  unfold compileKind.known
  split
  · rename_i h
    simp [h, eq_comm]
  · rename_i h
    simp [h]

/-- **An accepted kind** is the property's datatype, if the datatype is accepted, or the schema of what it refers to. -/
theorem compileKind_eq_ok_iff {shape : String} {q : PropertyShape} {kind : ValueKind Schema}
    (hres : ∀ y, q.kind = some (.nested y) → c.Resolves shapes y) :
    q.compileKind o ds shapes c shape = .ok kind ↔
      (∀ iri, q.datatype? o = some iri → o.accepts ds iri = true ∧ kind = .datatype iri) ∧
        ∀ y, q.kind = some (.nested y) → ∃ t ∈ c.schemas, t.shape = y ∧ kind = .nested t := by
  rcases q with ⟨name, path, _ | (iri | y), max, cs⟩
  · change compileKind.known o ds shape _ o.defaultDatatype = _ ↔ _
    rw [known_eq_ok_iff]
    exact ⟨fun h => ⟨fun iri he => Option.some.inj he ▸ h, nofun⟩, fun h => h.1 _ rfl⟩
  · change compileKind.known o ds shape _ iri = _ ↔ _
    rw [known_eq_ok_iff]
    exact ⟨fun h => ⟨fun iri he => Option.some.inj he ▸ h, nofun⟩, fun h => h.1 _ rfl⟩
  · obtain ⟨⟨t, ht, hty⟩, hiff⟩ := hres y rfl
    have ht' := (hiff t).2 ⟨ht, hty⟩
    simp only [compileKind, ht']
    constructor
    · rintro ⟨⟩
      refine ⟨nofun, fun z hz => ?_⟩
      cases hz
      exact ⟨t, ht, hty, rfl⟩
    · rintro ⟨-, h⟩
      obtain ⟨u, hu, huy, rfl⟩ := h y rfl
      rw [(hiff u).2 ⟨hu, huy⟩] at ht'
      cases ht'
      rfl

theorem compile_eq_ok_iff {shape : String} {q : PropertyShape} {p : Property Schema}
    (hres : ∀ y, q.kind = some (.nested y) → c.Resolves shapes y) :
    q.compile o ds shapes c shape = .ok p ↔
      (∀ iri, q.datatype? o = some iri → o.accepts ds iri = true) ∧ p.Compiled o c.namespaces c.schemas q := by
  unfold compile
  simp only [bind_eq_ok_iff, compileKind_eq_ok_iff hres]
  constructor
  · rintro ⟨kind, ⟨hd, hn⟩, ⟨⟩⟩
    refine ⟨fun iri h => (hd iri h).1, rfl, rfl, rfl, rfl, rfl, fun iri h => ?_, fun y h => ?_⟩
    · rw [(hd iri h).2]
      exact ⟨rfl, rfl⟩
    · obtain ⟨t, ht, hty, rfl⟩ := hn y h
      exact ⟨t, ht, hty, rfl, rfl⟩
  · rintro ⟨hacc, hp⟩
    refine ⟨p.kind, ⟨fun iri h => ⟨hacc iri h, (hp.datatype_eq iri h).1⟩, fun y h => ?_⟩, ?_⟩
    · obtain ⟨t, ht, hty, hk, -⟩ := hp.nested_eq y h
      exact ⟨t, ht, hty, hk⟩
    · have hqualified : p.qualifiedDatatype = qualifyKind? c.namespaces p.kind := by
        cases hk : q.kind with
        | none =>
          obtain ⟨h, h'⟩ := hp.datatype_eq o.defaultDatatype (by rw [datatype?, hk])
          rw [h', h, qualifyKind?]
        | some kind =>
          cases kind with
          | datatype iri =>
            obtain ⟨h, h'⟩ := hp.datatype_eq iri (by rw [datatype?, hk])
            rw [h', h, qualifyKind?]
          | nested y =>
            obtain ⟨t, -, -, h, h'⟩ := hp.nested_eq y hk
            rw [h', h, qualifyKind?]
      rw [← hp.name_eq, ← hp.path_eq, ← hp.maxCount_eq, ← hp.constraints_eq, hp.path_eq, ← hp.qualifiedPath_eq,
        ← hp.path_eq, ← hqualified]

theorem exists_compile_iff {shape : String} {q : PropertyShape}
    (hres : ∀ y, q.kind = some (.nested y) → c.Resolves shapes y) :
    (∃ p, q.compile o ds shapes c shape = .ok p) ↔ ∀ iri, q.datatype? o = some iri → o.accepts ds iri = true := by
  have hkind : (∃ p, q.compile o ds shapes c shape = .ok p) ↔
      ∃ kind, q.compileKind o ds shapes c shape = .ok kind := by
    unfold compile
    simp only [bind_eq_ok_iff]
    exact ⟨fun ⟨_, kind, hk, _⟩ => ⟨kind, hk⟩, fun ⟨kind, hk⟩ => ⟨_, kind, hk, rfl⟩⟩
  simp only [hkind, compileKind_eq_ok_iff hres]
  constructor
  · rintro ⟨kind, h, -⟩ iri hiri
    exact (h iri hiri).1
  · intro h
    rcases q with ⟨name, path, _ | (iri | y), max, cs⟩
    · exact ⟨.datatype o.defaultDatatype, fun iri he => ⟨h iri he, Option.some.inj he ▸ rfl⟩, nofun⟩
    · exact ⟨.datatype iri, fun iri he => ⟨h iri he, Option.some.inj he ▸ rfl⟩, nofun⟩
    · obtain ⟨t, ht, rfl⟩ := (hres y rfl).1
      refine ⟨.nested t, nofun, fun z hz => ?_⟩
      cases hz
      exact ⟨t, ht, rfl, rfl⟩

end PropertyShape

namespace Shape

theorem mem_references {d : Shape} {y : Term} :
    y ∈ d.references.map (·.2) ↔ ∃ q ∈ d.properties, q.kind = some (.nested y) := by
  simp only [references, List.mem_map, List.mem_filterMap]
  constructor
  · rintro ⟨r, ⟨q, hq, hr⟩, rfl⟩
    refine ⟨q, hq, ?_⟩
    split at hr
    · rename_i z hz
      cases hr
      exact hz
    · cases hr
  · rintro ⟨q, hq, hk⟩
    exact ⟨(q.name, y), ⟨q, hq, by simp [hk]⟩, rfl⟩

/-- **An accepted shape** has accepted datatypes, and its schema says what it says. -/
theorem compile_eq_ok_iff {d : Shape} {s : Schema} (hres : ∀ y ∈ d.references.map (·.2), c.Resolves shapes y) :
    d.compile o ds shapes c = .ok s ↔ d.DatatypesAccepted o ds ∧ s.Compiled o c.namespaces c.schemas d := by
  have hproperties : ∀ q ∈ d.properties, ∀ p, q.compile o ds shapes c d.name = .ok p ↔
      (∀ iri, q.datatype? o = some iri → o.accepts ds iri = true) ∧ p.Compiled o c.namespaces c.schemas q :=
    fun q hq p => PropertyShape.compile_eq_ok_iff fun y hy => hres y (mem_references.2 ⟨q, hq, hy⟩)
  unfold compile
  simp only [bind_eq_ok_iff, mapM_eq_ok_iff, forall₂_congr_of_mem hproperties, List.forall₂_and_left]
  constructor
  · rintro ⟨ps, ⟨hacc, hps⟩, ⟨⟩⟩
    exact ⟨hacc, rfl, rfl, rfl, rfl, hps⟩
  · rintro ⟨hacc, hs⟩
    refine ⟨s.properties, ⟨hacc, hs.properties_eq⟩, ?_⟩
    obtain ⟨name, target, qualified, shape, ps⟩ := s
    obtain ⟨rfl, rfl, rfl, rfl, -⟩ := hs
    rfl

theorem exists_compile_iff {d : Shape} (hres : ∀ y ∈ d.references.map (·.2), c.Resolves shapes y) :
    (∃ s, d.compile o ds shapes c = .ok s) ↔ d.DatatypesAccepted o ds := by
  have hproperties : ∀ q ∈ d.properties, (∃ p, q.compile o ds shapes c d.name = .ok p) ↔
      ∀ iri, q.datatype? o = some iri → o.accepts ds iri = true :=
    fun q hq => PropertyShape.exists_compile_iff fun y hy => hres y (mem_references.2 ⟨q, hq, hy⟩)
  rw [DatatypesAccepted, ← forall₂_congr hproperties, ← exists_mapM_eq_ok_iff]
  unfold compile
  simp only [bind_eq_ok_iff]
  exact ⟨fun ⟨_, ps, hps, _⟩ => ⟨ps, hps⟩, fun ⟨ps, hps⟩ => ⟨_, ps, hps, rfl⟩⟩

end Shape

/-! ## Compiling shapes in order -/

namespace Catalog

/-- **The catalog was built from the shapes**, schema by schema, and its schemas refer to each other only. -/
structure Built (o : CompileOptions) (ns : Namespaces) (shapes : List Shape) (c : Catalog) : Prop where
  namespaces_eq : c.namespaces = ns
  schemas_eq : List.Forall₂ (fun d s => s.Compiled o ns c.schemas d) shapes c.schemas

theorem built_empty (o : CompileOptions) (ns : Namespaces) : Built o ns [] (empty ns) := ⟨rfl, .nil⟩

namespace Built

variable {done : List Shape}

theorem map_name (h : Built o ns done c) : c.schemas.map (·.name) = done.map (·.name) :=
  map_eq_map_of_forall₂ h.schemas_eq fun _ _ hs => hs.name_eq

theorem map_targetType (h : Built o ns done c) : c.schemas.map (·.targetType) = done.map (·.target) :=
  map_eq_map_of_forall₂ h.schemas_eq fun _ _ hs => hs.targetType_eq

theorem map_shape (h : Built o ns done c) : c.schemas.map (·.shape) = done.map (·.subject) :=
  map_eq_map_of_forall₂ h.schemas_eq fun _ _ hs => hs.shape_eq

/-- **A reference to a shape that was added is found**, by its subject, its name and the catalog, and it is found as the
schema of that shape: no other schema in the catalog has its name. -/
theorem resolves (h : Built o ns done c) (hs : (shapes.map (·.subject)).Nodup) (hsub : done ⊆ shapes) {y : Term}
    (hy : y ∈ done.map (·.subject)) : c.Resolves shapes y := by
  obtain ⟨d, hd, rfl⟩ := List.mem_map.1 hy
  obtain ⟨s, hs', hcompiled⟩ := exists_right_of_forall₂ h.schemas_eq hd
  have hname : Shape.nameOf? shapes d.subject = some d.name := by
    rw [Shape.nameOf?, (find?_key_eq_some_iff hs).2 ⟨hsub hd, rfl⟩, Option.map_some]
  have hfound : c.byName? d.name = some s := byName?_eq_some_iff.2 ⟨hs', hcompiled.name_eq⟩
  rw [Resolves, hname, Option.bind_some, hfound]
  refine ⟨⟨s, hs', hcompiled.shape_eq⟩, fun t => ?_⟩
  constructor
  · rintro ⟨⟩
    exact ⟨hs', hcompiled.shape_eq⟩
  · rintro ⟨ht, hshape⟩
    -- a schema with the subject comes from the same shape, and so has the name that was looked up
    obtain ⟨e, he, hte⟩ := exists_left_of_forall₂ h.schemas_eq ht
    have heq : e = d := List.inj_on_of_nodup_map hs (hsub he) (hsub hd) (hte.shape_eq.symm.trans hshape)
    rw [← hfound, byName?_eq_some_iff]
    exact ⟨ht, heq ▸ hte.name_eq⟩

theorem register (h : Built o ns done c) {d : Shape} {s : Schema} (hs : s.Compiled o ns c.schemas d) {c' : Catalog}
    (hc : c.register s = .ok c') : Built o ns (done ++ [d]) c' := by
  obtain ⟨-, -, hschemas, hns⟩ := register_eq_ok_iff.1 hc
  have hsub : c.schemas ⊆ c'.schemas := by
    rw [hschemas]
    exact List.subset_append_left ..
  refine ⟨hns.trans h.namespaces_eq, ?_⟩
  have := (h.schemas_eq.imp fun _ _ hc => hc.mono hsub)
  rw [hschemas] at this ⊢
  exact List.rel_append this (.cons (hs.mono (by rw [← hschemas]; exact hsub)) .nil)

end Built

variable {done : List Shape}

/-- **One step of a compilation**: a shape whose references were added is added just when its datatypes are accepted and
its name and its target are new. -/
theorem exists_addShape_iff (ds : Datatypes) (h : Built o ns done c) (hs : (shapes.map (·.subject)).Nodup)
    (hsub : done ⊆ shapes) {d : Shape} (hd : ∀ y ∈ d.references.map (·.2), y ∈ done.map (·.subject)) :
    (∃ c', c.addShape o ds shapes d = .ok c') ↔ d.DatatypesAccepted o ds ∧ d.name ∉ done.map (·.name) ∧
      d.target ∉ done.map (·.target) := by
  have hres : ∀ y ∈ d.references.map (·.2), c.Resolves shapes y := fun y hy => h.resolves hs hsub (hd y hy)
  have hregister : ∀ s, d.compile o ds shapes c = .ok s → ((∃ c', c.register s = .ok c') ↔
      d.name ∉ done.map (·.name) ∧ d.target ∉ done.map (·.target)) := by
    intro s hcompile
    have hcompiled := ((Shape.compile_eq_ok_iff hres).1 hcompile).2
    rw [exists_register_iff, h.map_name, h.map_targetType, hcompiled.name_eq, hcompiled.targetType_eq]
  rw [← Shape.exists_compile_iff hres]
  unfold addShape
  simp only [bind_eq_ok_iff]
  constructor
  · rintro ⟨c', s, hcompile, hc⟩
    exact ⟨⟨s, hcompile⟩, (hregister s hcompile).1 ⟨c', hc⟩⟩
  · rintro ⟨⟨s, hcompile⟩, hnew⟩
    obtain ⟨c', hc⟩ := (hregister s hcompile).2 hnew
    exact ⟨c', s, hcompile, hc⟩

theorem built_of_addShape (h : Built o ns done c) (hs : (shapes.map (·.subject)).Nodup) (hsub : done ⊆ shapes)
    {d : Shape} (hd : ∀ y ∈ d.references.map (·.2), y ∈ done.map (·.subject)) {c' : Catalog}
    (hc : c.addShape o ds shapes d = .ok c') : Built o ns (done ++ [d]) c' := by
  obtain ⟨s, hcompile, hregister⟩ := bind_eq_ok_iff.1 hc
  have hcompiled := ((Shape.compile_eq_ok_iff fun y hy => h.resolves hs hsub (hd y hy)).1 hcompile).2
  rw [h.namespaces_eq] at hcompiled
  exact h.register hcompiled hregister

/-- **A run over shapes in order** is accepted just when every step is, and then the catalog is built from them all. -/
theorem built_of_foldlM (hs : (shapes.map (·.subject)).Nodup) : ∀ {rest done : List Shape} {c c' : Catalog},
    Built o ns done c → done ++ rest ⊆ shapes → Shape.InOrder (done ++ rest) →
    rest.foldlM (addShape o ds shapes) c = .ok c' → Built o ns (done ++ rest) c'
  | [], done, c, c', h, _, _, hc => by
    cases hc
    rwa [List.append_nil]
  | d :: rest, done, c, c', h, hsub, hin, hc => by
    rw [List.foldlM_cons] at hc
    obtain ⟨c₁, hd, hc⟩ := bind_eq_ok_iff.1 hc
    have hdone : done ⊆ shapes := fun x hx => hsub (List.mem_append_left _ hx)
    have h₁ := built_of_addShape h hs hdone (hin done d rest rfl) hd
    rw [← List.singleton_append, ← List.append_assoc] at hsub hin ⊢
    exact built_of_foldlM hs h₁ hsub hin hc

theorem exists_foldlM_iff (hs : (shapes.map (·.subject)).Nodup) : ∀ {rest done : List Shape} {c : Catalog},
    Built o ns done c → done ++ rest ⊆ shapes → Shape.InOrder (done ++ rest) →
    ((∃ c', rest.foldlM (addShape o ds shapes) c = .ok c') ↔ (∀ d ∈ rest, d.DatatypesAccepted o ds) ∧
      ((done ++ rest).map (·.name)).Nodup ∧ ((done ++ rest).map (·.target)).Nodup)
  | [], done, c, h, _, _ => by
    rw [List.append_nil, ← h.map_name, ← h.map_targetType]
    exact ⟨fun _ => ⟨nofun, c.names_nodup, c.targets_nodup⟩, fun _ => ⟨c, rfl⟩⟩
  | d :: rest, done, c, h, hsub, hin => by
    have hdone : done ⊆ shapes := fun x hx => hsub (List.mem_append_left _ hx)
    have hrefs := hin done d rest rfl
    have hstep := exists_addShape_iff ds h hs hdone hrefs
    have hassoc : done ++ d :: rest = done ++ [d] ++ rest := by rw [List.append_assoc, List.singleton_append]
    rw [hassoc] at hsub hin
    constructor
    · rintro ⟨c', hc⟩
      rw [List.foldlM_cons] at hc
      obtain ⟨c₁, hd, hc⟩ := bind_eq_ok_iff.1 hc
      have h₁ := built_of_addShape h hs hdone hrefs hd
      obtain ⟨hacc, hnodup⟩ := (exists_foldlM_iff hs h₁ hsub hin).1 ⟨c', hc⟩
      rw [hassoc]
      exact ⟨List.forall_mem_cons.2 ⟨(hstep.1 ⟨c₁, hd⟩).1, hacc⟩, hnodup⟩
    · rintro ⟨hacc, hn, ht⟩
      rw [List.forall_mem_cons] at hacc
      obtain ⟨c₁, hd⟩ := hstep.2
        ⟨hacc.1, notMem_map_of_nodup_map_append hn, notMem_map_of_nodup_map_append ht⟩
      rw [hassoc] at hn ht
      have h₁ := built_of_addShape h hs hdone hrefs hd
      obtain ⟨c', hc⟩ := (exists_foldlM_iff hs h₁ hsub hin).2 ⟨hacc.2, hn, ht⟩
      exact ⟨c', bind_eq_ok_iff.2 ⟨c₁, hd, hc⟩⟩

/-- The conditions under which shapes compile, of all of them together. -/
structure Compilable (o : CompileOptions) (ds : Datatypes) (shapes : List Shape) : Prop where
  references_known : Shape.ReferencesKnown shapes
  acyclic : Shape.Acyclic shapes
  names_nodup : (shapes.map (·.name)).Nodup
  targets_nodup : (shapes.map (·.target)).Nodup
  datatypes_accepted : ∀ d ∈ shapes, d.DatatypesAccepted o ds

/-- **Shapes compile just when the conditions hold of them.** -/
theorem exists_ofShapes_iff (hs : (shapes.map (·.subject)).Nodup) :
    (∃ c, ofShapes o ds ns shapes = .ok c) ↔ Compilable o ds shapes := by
  have hrun : ∀ positions, Precedence.order shapes = .ok positions →
      ((∃ c, (Precedence.shapesAt shapes positions).foldlM (addShape o ds shapes) (empty ns) = .ok c) ↔
        (∀ d ∈ shapes, d.DatatypesAccepted o ds) ∧ (shapes.map (·.name)).Nodup ∧ (shapes.map (·.target)).Nodup) := by
    intro positions hpositions
    obtain ⟨-, hperm, hin⟩ := Precedence.order_eq_ok hs hpositions
    generalize Precedence.shapesAt shapes positions = ordered at hperm hin ⊢
    rw [exists_foldlM_iff hs (built_empty o ns) hperm.subset hin, List.nil_append, (hperm.map _).nodup_iff,
      (hperm.map _).nodup_iff]
    simp only [hperm.mem_iff]
  unfold ofShapes
  simp only [bind_eq_ok_iff]
  constructor
  · rintro ⟨c, positions, hpositions, hc⟩
    obtain ⟨hknown, hac⟩ := (Precedence.exists_order_iff hs).1 ⟨positions, hpositions⟩
    obtain ⟨hacc, hn, ht⟩ := (hrun positions hpositions).1 ⟨c, hc⟩
    exact ⟨hknown, hac, hn, ht, hacc⟩
  · rintro ⟨hknown, hac, hn, ht, hacc⟩
    obtain ⟨positions, hpositions⟩ := (Precedence.exists_order_iff hs).2 ⟨hknown, hac⟩
    obtain ⟨c, hc⟩ := (hrun positions hpositions).2 ⟨hacc, hn, ht⟩
    exact ⟨c, positions, hpositions, hc⟩

/-- **A compiled catalog is built from all the shapes**, in some order of precedence. -/
theorem built_of_ofShapes (hs : (shapes.map (·.subject)).Nodup) (hc : ofShapes o ds ns shapes = .ok c) :
    ∃ ordered, ordered.Perm shapes ∧ Shape.InOrder ordered ∧ Built o ns ordered c := by
  obtain ⟨positions, hpositions, hc⟩ := bind_eq_ok_iff.1 hc
  obtain ⟨-, hperm, hin⟩ := Precedence.order_eq_ok hs hpositions
  exact ⟨_, hperm, hin, built_of_foldlM hs (built_empty o ns) hperm.subset hin hc⟩

end Catalog
end ShapeBinding
