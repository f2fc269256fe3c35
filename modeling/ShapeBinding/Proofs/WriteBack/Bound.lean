import ShapeBinding.Proofs.Datatype.Builtin
import ShapeBinding.Proofs.WriteBack
/-!
# Writing what was bound

An entity that was bound can be written again if the converters of its datatypes return what they read, and all its
nested entities come back from the graph of its triples.  Its literal values need not: a graph holds a triple once, so
two lexical forms of one value are written as one (`Catalog.not_bindType_triples_readings`).  Where no property leads
along `rdf:type` and the literal values under one subject and path are of one datatype, the entity comes back just when
no property has two equal literal values; and in general, just when the objects that were written under the properties
with datatypes read as the values there (`Catalog.exists_bindType_triples_iff`).
-/
namespace ShapeBinding

/-! ## When nothing is lost -/

namespace Entity

/-- No two values of a property with a datatype are equal. -/
def LiteralsDistinct (e : Entity) : Prop :=
  ∀ n ∈ e.family, ∀ c ∈ n.cells, ∀ iri, c.1.kind = .datatype iri → c.2.values.Pairwise fun f f' => ¬ f.Same f'

/-- Literal values that stand under one subject and one path are of one datatype. -/
def OneDatatype (e : Entity) : Prop :=
  ∀ n ∈ e.family, ∀ c ∈ n.cells, ∀ n' ∈ e.family, ∀ c' ∈ n'.cells, n'.subject = n.subject → c'.1.path = c.1.path →
    c.2.values ≠ [] → ∀ iri iri', c.1.kind = .datatype iri → c'.1.kind = .datatype iri' → iri' = iri

/-- What a graph holds under the properties that have a datatype, and under those along `rdf:type`, reads as the values
there. -/
def LiteralsRead (b : Binder) (g : Graph) (e : Entity) : Prop :=
  ∀ n ∈ e.family, ∀ c ∈ n.cells, (c.1.path = Rdf.type ∨ ∃ iri, c.1.kind = .datatype iri) →
    List.Forall₂ (b.Reads c.1) (g.objects n.subject (.iri c.1.path)) c.2.values

end Entity

/-! ## Bound entities -/

namespace Binder

/-- **An entity that was bound from a graph**, with datatypes whose converters return what they read and read no
doubles. -/
structure Binds (b : Binder) (g : Graph) (e : Entity) : Prop where
  bound : b.bindSubject g e.subject e.schema = .ok e
  returns : ∀ t, e.schema.Includes t → ∀ p ∈ t.properties, ∀ iri, p.kind = .datatype iri →
    ∀ c, b.datatypes.find? iri = some c → c.Returns ∧ c.valueType ≠ .double

namespace Binds

variable {b : Binder} {g : Graph} {e n n' : Entity} {c c' : Property Schema × Slot Entity} {ts : List Triple}

/-- Without floating-point numbers, the built-in datatypes will do. -/
theorem of_builtin {c : Catalog} {strict : Bool}
    (hbound : (Binder.mk c .builtin strict).bindSubject g e.subject e.schema = .ok e)
    (hexact : ∀ t, e.schema.Includes t → ∀ p ∈ t.properties,
      p.kind ≠ .datatype Xsd.double ∧ p.kind ≠ .datatype Xsd.float) : (Binder.mk c .builtin strict).Binds g e := by
  refine ⟨hbound, fun t ht p hp iri hk conv hconv => Datatypes.returns_of_find?_builtin hconv ?_ ?_⟩
  · rintro rfl
    exact (hexact t ht p hp).1 hk
  · rintro rfl
    exact (hexact t ht p hp).2 hk

theorem fits (h : b.Binds g e) : e.Fits b.datatypes := fits_of_bindSubject h.bound

theorem forall₂_objects (h : b.Binds g e) (hn : n ∈ e.family) (hc : c ∈ n.cells) :
    List.Forall₂ (fun o f => b.bindObject g c.1.name o c.1.kind = .ok f) (g.objects n.subject (.iri c.1.path))
      c.2.values :=
  (bindProperty_eq_ok_iff.1 (forall₂_cell_of_bindSubject (bindSubject_of_mem_family h.bound hn) hc)).2.2

theorem forall₂_literals (h : b.Binds g e) (hn : n ∈ e.family) (hc : c ∈ n.cells) {iri : String}
    (hk : c.1.kind = .datatype iri) : List.Forall₂ (fun o f => ∃ l v, o = .literal l ∧ f = .literal v ∧
      (b.strict = true → l.datatype = iri) ∧ b.datatypes.decode iri l.lexical = .ok v)
      (g.objects n.subject (.iri c.1.path)) c.2.values := by
  refine (h.forall₂_objects hn hc).imp fun o f hf => ?_
  rw [hk, bindObject_datatype_eq_ok_iff] at hf
  obtain ⟨v, hv, rfl⟩ := hf
  obtain ⟨l, rfl, hstrict, hdecode⟩ := bindLiteral_eq_ok_iff.1 hv
  exact ⟨l, v, rfl, rfl, hstrict, hdecode⟩

theorem forall₂_nodes (h : b.Binds g e) (hn : n ∈ e.family) (hc : c ∈ n.cells) {s : Schema}
    (hk : c.1.kind = .nested s) : List.Forall₂ (fun o f => o.isNode = true ∧ ∃ m, f = .entity m ∧ m.subject = o)
      (g.objects n.subject (.iri c.1.path)) c.2.values := by
  refine (h.forall₂_objects hn hc).imp fun o f hf => ?_
  rw [hk, bindObject_nested_eq_ok_iff] at hf
  obtain ⟨hnode, m, hm, rfl⟩ := hf
  exact ⟨hnode, m, rfl, (bindSubject_eq_ok_iff.1 hm).2.1⟩

/-- **Every literal value returns**, and none is a double. -/
theorem value_returns (h : b.Binds g e) (hn : n ∈ e.family) (hc : c ∈ n.cells) {iri : String}
    (hk : c.1.kind = .datatype iri) {v : Value} (hv : .literal v ∈ c.2.values) :
    v.type ≠ .double ∧ v.Returns b.datatypes iri := by
  obtain ⟨o, -, l, w, -, ⟨⟩, -, hdecode⟩ := exists_left_of_forall₂ (h.forall₂_literals hn hc hk) hv
  obtain ⟨conv, hconv, -⟩ := Datatypes.decode_eq_ok_iff.1 hdecode
  obtain ⟨hreturns, hdouble⟩ := h.returns n.schema (h.fits.includes hn) c.1 (List.of_mem_zip hc).1 iri hk conv hconv
  obtain ⟨htype, lexical, hl, hw⟩ := Datatypes.exists_encode_of_decode hconv hreturns hdecode
  have hne : v.type ≠ .double := htype ▸ hdouble
  exact ⟨hne, lexical, v, hl, hw, (Value.beq_iff_eq hne).2 rfl⟩

theorem exists_writes (h : b.Binds g e) (hn : n ∈ e.family) (hc : c ∈ n.cells) :
    ∃ objects, List.Forall₂ (fun f o => f.Writes b.datatypes c.1 o) c.2.values objects :=
  exists_forall₂_iff.2 fun _ hf => Field.exists_writes (((h.fits.of_mem_family hn).cell hc).fields _ hf)
    fun _ _ hk hv => (h.value_returns hn hc hk (hv ▸ hf)).2

/-- **A bound entity can be written.** -/
theorem exists_triples (h : b.Binds g e) : ∃ ts, e.triples b.datatypes = .ok ts :=
  Entity.exists_triples_iff.2 fun _ hn _ hc => exists_forall₂_iff.1 (h.exists_writes hn hc)

/-! ### Nested entities -/

theorem objects_eq_nil (h : b.Binds g e) (hn : n ∈ e.family) (hc : c ∈ n.cells) (hn' : n' ∈ e.family)
    (hc' : c' ∈ n'.cells) (hsubject : n'.subject = n.subject) (hpath : c'.1.path = c.1.path) {s : Schema}
    (hk : c.1.kind = .nested s) {iri : String} (hk' : c'.1.kind = .datatype iri) :
    g.objects n.subject (.iri c.1.path) = [] := by
  have hliterals := h.forall₂_literals hn' hc' hk'
  rw [hsubject, hpath] at hliterals
  refine List.eq_nil_iff_forall_not_mem.2 fun o ho => ?_
  obtain ⟨_, -, hnode, -⟩ := exists_right_of_forall₂ (h.forall₂_nodes hn hc hk) ho
  obtain ⟨_, -, l, _, rfl, -⟩ := exists_right_of_forall₂ hliterals ho
  cases hnode

/-- **What was written under a nested schema reads as the values there**, also where several members write it. -/
theorem reads_nested (h : b.Binds g e) (hts : e.triples b.datatypes = .ok ts) (hn : n ∈ e.family) (hc : c ∈ n.cells)
    {s : Schema} (hk : c.1.kind = .nested s) (hpath : c.1.path ≠ Rdf.type) :
    List.Forall₂ (b.Reads c.1) ((Graph.ofList ts).objects n.subject (.iri c.1.path)) c.2.values := by
  have hwrites : ∀ n' ∈ e.family, ∀ c' ∈ n'.cells, n'.subject = n.subject → Term.iri c'.1.path = .iri c.1.path →
      List.Forall₂ (fun f o => f.Writes b.datatypes c'.1 o) c'.2.values (g.objects n.subject (.iri c.1.path)) := by
    intro n' hn' c' hc' hsubject hpath'
    have hpath' := Term.iri.inj hpath'
    cases hk' : c'.1.kind with
    | nested s' =>
      have hnodes := h.forall₂_nodes hn' hc' hk'
      rw [hsubject, hpath'] at hnodes
      refine hnodes.flip.imp fun f o hf => ?_
      obtain ⟨-, m, rfl, rfl⟩ := hf
      exact ⟨⟨s', hk'⟩, rfl⟩
    | datatype iri =>
      have hnil := h.objects_eq_nil hn hc hn' hc' hsubject hpath' hk hk'
      have hliterals := h.forall₂_literals hn' hc' hk'
      rw [hsubject, hpath', hnil, List.forall₂_nil_left_iff] at hliterals
      rw [hnil, hliterals]
      exact .nil
  have hobjects := Entity.objects_ofList_triples (fun hq => hpath (Term.iri.inj hq)) hts hwrites hn hc rfl rfl
  rw [hobjects, eraseDups_of_nodup (Graph.nodup_objects ..)]
  exact (hwrites n hn c hc rfl rfl).flip.imp fun o f hf => reads_of_writes hf fun _ _ hk' _ => by
    rw [hk] at hk'
    cases hk'

/-! ### Literal values -/

theorem values_eq (h : b.Binds g e) (hn : n ∈ e.family) (hc : c ∈ n.cells) (hn' : n' ∈ e.family) (hc' : c' ∈ n'.cells)
    (hsubject : n'.subject = n.subject) (hpath : c'.1.path = c.1.path) {iri : String} (hk : c.1.kind = .datatype iri)
    (hk' : c'.1.kind = .datatype iri) : c'.2.values = c.2.values := by
  have hliterals := h.forall₂_literals hn' hc' hk'
  rw [hsubject, hpath] at hliterals
  refine eq_of_forall₂ hliterals (h.forall₂_literals hn hc hk) fun o _ f _ f' hf hf' => ?_
  obtain ⟨l, v, rfl, rfl, -, hv⟩ := hf
  obtain ⟨_, w, ⟨⟩, rfl, -, hw⟩ := hf'
  rw [hv] at hw
  cases hw
  rfl

theorem objects_literals (h : b.Binds g e) (hts : e.triples b.datatypes = .ok ts) (hone : e.OneDatatype)
    (hn : n ∈ e.family) (hc : c ∈ n.cells) {iri : String} (hk : c.1.kind = .datatype iri)
    (hpath : c.1.path ≠ Rdf.type) {objects : List Term}
    (hobjects : List.Forall₂ (fun f o => f.Writes b.datatypes c.1 o) c.2.values objects) :
    (Graph.ofList ts).objects n.subject (.iri c.1.path) = objects.eraseDups := by
  refine Entity.objects_ofList_triples (fun hq => hpath (Term.iri.inj hq)) hts (fun n' hn' c' hc' hsubject hpath' => ?_)
    hn hc rfl rfl
  have hpath' := Term.iri.inj hpath'
  by_cases hnil : g.objects n.subject (.iri c.1.path) = []
  · -- no object was read, so none is written
    have hvalues := h.forall₂_objects hn hc
    have hvalues' := h.forall₂_objects hn' hc'
    rw [hsubject, hpath', hnil, List.forall₂_nil_left_iff] at hvalues'
    rw [hnil, List.forall₂_nil_left_iff] at hvalues
    rw [hvalues, List.forall₂_nil_left_iff] at hobjects
    rw [hvalues', hobjects]
    exact .nil
  · cases hk' : c'.1.kind with
    | nested s =>
      have hnil' := h.objects_eq_nil hn' hc' hn hc hsubject.symm hpath'.symm hk' hk
      rw [hsubject, hpath'] at hnil'
      exact absurd hnil' hnil
    | datatype iri' =>
      have hne : c.2.values ≠ [] := fun hvalues => hnil <| by
        have hread := h.forall₂_objects hn hc
        rwa [hvalues, List.forall₂_nil_right_iff] at hread
      obtain rfl := hone n hn c hc n' hn' c' hc' hsubject hpath' hne _ _ hk hk'
      rw [h.values_eq hn hc hn' hc' hsubject hpath' hk hk']
      exact hobjects.imp fun f o ho => (Field.writes_congr (hk'.trans hk.symm)).2 ho

/-- **Literal values of one datatype come back just when no two of them are equal.** -/
theorem reads_literals_iff (h : b.Binds g e) (hts : e.triples b.datatypes = .ok ts) (hone : e.OneDatatype)
    (hn : n ∈ e.family) (hc : c ∈ n.cells) {iri : String} (hk : c.1.kind = .datatype iri)
    (hpath : c.1.path ≠ Rdf.type) :
    List.Forall₂ (b.Reads c.1) ((Graph.ofList ts).objects n.subject (.iri c.1.path)) c.2.values ↔
      c.2.values.Pairwise fun f f' => ¬ f.Same f' := by
  obtain ⟨objects, hobjects⟩ := h.exists_writes hn hc
  rw [h.objects_literals hts hone hn hc hk hpath hobjects]
  constructor
  · intro hreads
    have hnodup := nodup_of_length_eraseDups (hreads.length_eq.trans hobjects.length_eq)
    refine pairwise_of_forall₂ (forall₂_flip_mem hobjects) hnodup fun o _ o' _ f f' hf hf' hne hsame => hne ?_
    obtain ⟨v, rfl⟩ := hf.1.exists_literal hk
    obtain ⟨w, rfl⟩ := hf'.1.exists_literal hk
    obtain rfl := (Value.beq_iff_eq (h.value_returns hn hc hk hf'.2).1).1 (Field.same_literal.1 hsame)
    exact hf.1.unique hf'.1
  · intro hdistinct
    have hnodup := Field.nodup_of_writes hk hobjects (fun v hv => (h.value_returns hn hc hk hv).2) hdistinct
    rw [eraseDups_of_nodup hnodup]
    exact (forall₂_flip_mem hobjects).imp fun o f hf => reads_of_writes hf.1 fun _ _ hk' hv =>
      (h.value_returns hn hc hk' (hv ▸ hf.2)).2

/-- Where the datatypes of literals are checked, an object is of one datatype only. -/
theorem oneDatatype_of_strict (h : b.Binds g e) (hstrict : b.strict = true) : e.OneDatatype := by
  intro n hn c hc n' hn' c' hc' hsubject hpath hne iri iri' hk hk'
  have hliterals := h.forall₂_literals hn' hc' hk'
  rw [hsubject, hpath] at hliterals
  obtain ⟨f, hf⟩ := List.exists_mem_of_ne_nil _ hne
  obtain ⟨o, ho, l, _, rfl, -, hl, -⟩ := exists_left_of_forall₂ (h.forall₂_literals hn hc hk) hf
  obtain ⟨_, -, _, _, ⟨⟩, -, hl', -⟩ := exists_right_of_forall₂ hliterals ho
  rw [← hl hstrict, ← hl' hstrict]

/-! ### The whole family -/

/-- **Whether a bound entity comes back is decided by its literal values**, and by what is written along `rdf:type`. -/
theorem rebinds_iff_literalsRead (h : b.Binds g e) (hts : e.triples b.datatypes = .ok ts) :
    b.Rebinds (Graph.ofList ts) e ↔ e.LiteralsRead b (Graph.ofList ts) := by
  rw [rebinds_iff h.fits]
  constructor
  · intro hreads n hn c hc _
    exact hreads n hn c hc
  · intro hreads n hn c hc
    by_cases hpath : c.1.path = Rdf.type
    · exact hreads n hn c hc (.inl hpath)
    · cases hk : c.1.kind with
      | datatype iri => exact hreads n hn c hc (.inr ⟨iri, hk⟩)
      | nested s => exact h.reads_nested hts hn hc hk hpath

/-- **Without properties along `rdf:type`, and with one datatype under each subject and path, a bound entity comes back
just when its literal values are distinct.** -/
theorem rebinds_iff_literalsDistinct (h : b.Binds g e) (hts : e.triples b.datatypes = .ok ts) (hone : e.OneDatatype)
    (hpaths : ∀ t, e.schema.Includes t → ∀ p ∈ t.properties, p.path ≠ Rdf.type) :
    b.Rebinds (Graph.ofList ts) e ↔ e.LiteralsDistinct := by
  have hpath : ∀ n ∈ e.family, ∀ c ∈ n.cells, c.1.path ≠ Rdf.type := fun n hn c hc =>
    hpaths n.schema (h.fits.includes hn) c.1 (List.of_mem_zip hc).1
  rw [h.rebinds_iff_literalsRead hts]
  constructor
  · intro hreads n hn c hc iri hk
    exact (h.reads_literals_iff hts hone hn hc hk (hpath n hn c hc)).1 (hreads n hn c hc (.inr ⟨iri, hk⟩))
  · intro hdistinct n hn c hc hcell
    obtain ⟨iri, hk⟩ := hcell.resolve_left (hpath n hn c hc)
    exact (h.reads_literals_iff hts hone hn hc hk (hpath n hn c hc)).2 (hdistinct n hn c hc iri hk)

theorem roots_eq (h : b.Binds g e) (hts : e.triples b.datatypes = .ok ts) (hroots : roots g e.schema = [e.subject])
    (htypes : ∀ n ∈ e.family, n.schema.targetType = e.schema.targetType → n = e) :
    roots (Graph.ofList ts) e.schema = [e.subject] := by
  refine roots_ofList_triples hts (fun n hn htarget => by rw [htypes n hn htarget]) ?_
  intro n hn c hc hpath f hf hwrites
  cases f with
  | literal v =>
    obtain ⟨_, _, -, -, ho⟩ := hwrites
    cases ho
  | entity m =>
    -- the object along rdf:type was read from the graph, where one subject only has it
    obtain ⟨⟨s, hk⟩, hsubject⟩ := hwrites
    obtain ⟨o, ho, -, _, ⟨⟩, rfl⟩ := exists_left_of_forall₂ (h.forall₂_nodes hn hc hk) hf
    rw [hpath, ← hsubject, Graph.mem_objects, ← mem_roots, hroots, List.mem_singleton] at ho
    exact ho

end Binds
end Binder

/-! ## Bound types -/

/-- **What becomes of an entity that was bound by its type and is written and bound again.**  It can always be written.
It comes back equal just when, in the graph that was written, the objects under each property that has a datatype or
leads along `rdf:type` read as the values there.  If no property leads along `rdf:type`, and if the datatypes of literals
are checked or the values under one subject and path are of one datatype, that is to say just when no two literal values
of a property are equal. -/
theorem Catalog.exists_bindType_triples_iff {o : CompileOptions} {ds₀ : Datatypes} {ns : Namespaces} {shapes : Graph}
    {c : Catalog} (hc : compile o ds₀ ns shapes = .ok c) {s : Schema} (hs : s ∈ c.schemas)
    (hexact : ∀ t, s.Includes t → ∀ p ∈ t.properties, p.kind ≠ .datatype Xsd.double ∧ p.kind ≠ .datatype Xsd.float)
    {strict : Bool} {g : Graph} {e : Entity} (he : (Binder.mk c .builtin strict).bindType g s.targetType = .ok e) :
    ∃ ts, e.triples .builtin = .ok ts ∧
      ((∃ e', (Binder.mk c .builtin strict).bindType (Graph.ofList ts) s.targetType = .ok e' ∧ (e' == e) = true) ↔
        e.LiteralsRead (Binder.mk c .builtin strict) (Graph.ofList ts)) ∧
      ((∀ t, s.Includes t → ∀ p ∈ t.properties, p.path ≠ Rdf.type) → strict = true ∨ e.OneDatatype →
        ((∃ e', (Binder.mk c .builtin strict).bindType (Graph.ofList ts) s.targetType = .ok e' ∧ (e' == e) = true) ↔
          e.LiteralsDistinct)) := by
  have hdescribes := describes_of_compile hc
  obtain ⟨s', root, hfound, hroots, hbound⟩ := Binder.bindType_eq_ok_iff.1 he
  have hfound' : c.byTarget? s.targetType = some s := byTarget?_eq_some_iff.2 ⟨hs, rfl⟩
  rw [hfound'] at hfound
  cases hfound
  obtain ⟨rfl, rfl, -⟩ := Binder.bindSubject_eq_ok_iff.1 hbound
  have hbinds := Binder.Binds.of_builtin hbound hexact
  obtain ⟨ts, hts⟩ := hbinds.exists_triples
  have hroots' := hbinds.roots_eq hts hroots fun n hn htarget =>
    hdescribes.eq_of_targetType_eq hs hbinds.fits hn htarget
  have hreturns := Binder.exists_bindType_beq_iff (b := Binder.mk c .builtin strict) hs hroots'
  refine ⟨ts, hts, hreturns.trans (hbinds.rebinds_iff_literalsRead hts), fun hpaths hone => hreturns.trans ?_⟩
  exact hbinds.rebinds_iff_literalsDistinct hts (hone.elim hbinds.oneDatatype_of_strict id) hpaths

/-! ## Two readings of one number -/

namespace Example

def sensorSchema : Schema :=
  ⟨"Sensor", "http://example.org/Sensor", none, .iri "http://example.org/SensorShape",
    [⟨"reading", "http://example.org/reading", .datatype Xsd.integer, none, [], none, none⟩]⟩

def sensorShapes : Graph := .ofList [
  ⟨.iri "http://example.org/SensorShape", .iri Rdf.type, .iri Sh.nodeShape⟩,
  ⟨.iri "http://example.org/SensorShape", .iri Sh.name, .string "Sensor"⟩,
  ⟨.iri "http://example.org/SensorShape", .iri Sh.targetClass, .iri "http://example.org/Sensor"⟩,
  ⟨.iri "http://example.org/SensorShape", .iri Sh.property, .blank "reading"⟩,
  ⟨.blank "reading", .iri Sh.name, .string "reading"⟩,
  ⟨.blank "reading", .iri Sh.path, .iri "http://example.org/reading"⟩,
  ⟨.blank "reading", .iri Sh.datatype, .iri Xsd.integer⟩]

/-- The number one, written in two ways. -/
def readings : Graph := .ofList [
  ⟨.iri "http://example.org/s", .iri Rdf.type, .iri "http://example.org/Sensor"⟩,
  ⟨.iri "http://example.org/s", .iri "http://example.org/reading", .typed "1" Xsd.integer⟩,
  ⟨.iri "http://example.org/s", .iri "http://example.org/reading", .typed "01" Xsd.integer⟩]

def sensor : Entity :=
  ⟨sensorSchema, .iri "http://example.org/s", [⟨some .integer, [.literal (.integer 1), .literal (.integer 1)]⟩]⟩

def sensorTriples : List Triple := [
  ⟨.iri "http://example.org/s", .iri Rdf.type, .iri "http://example.org/Sensor"⟩,
  ⟨.iri "http://example.org/s", .iri "http://example.org/reading", .typed "1" Xsd.integer⟩,
  ⟨.iri "http://example.org/s", .iri "http://example.org/reading", .typed "1" Xsd.integer⟩]

theorem compile_sensorShapes : ∃ c, Catalog.compile {} ∅ default sensorShapes = .ok c ∧ c.schemas = [sensorSchema] := by
  have h : (Catalog.compile {} ∅ default sensorShapes).toOption.map (·.schemas) = some [sensorSchema] := by
    decide +kernel
  cases hc : Catalog.compile {} ∅ default sensorShapes with
  | error e =>
    rw [hc] at h
    cases h
  | ok c =>
    rw [hc] at h
    exact ⟨c, rfl, Option.some.inj h⟩

theorem bindType_readings {c : Catalog} (hs : sensorSchema ∈ c.schemas) (strict : Bool) :
    (Binder.mk c .builtin strict).bindType readings sensorSchema.targetType = .ok sensor := by
  have hobjects : readings.objects sensor.subject (.iri "http://example.org/reading") =
      [.typed "1" Xsd.integer, .typed "01" Xsd.integer] := by decide +kernel
  have hinteger : Datatypes.builtin.find? Xsd.integer = some (.integerBetween (-2 ^ 63) (2 ^ 63 - 1)) :=
    Datatypes.find?_builtin_eq_some_iff.2 (.integer (List.mem_cons_self ..))
  have hread : ∀ lexical, (Converter.integerBetween (-2 ^ 63) (2 ^ 63 - 1)).decode lexical = .ok (.integer 1) →
      (Binder.mk c .builtin strict).bindObject readings "reading" (.typed lexical Xsd.integer) (.datatype Xsd.integer) =
        .ok (.literal (.integer 1)) := by
    intro lexical h
    have hdecode := (Datatypes.decode_eq_ok_iff_of_find? hinteger).2 h
    exact Binder.bindObject_datatype_eq_ok_iff.2
      ⟨_, Binder.bindLiteral_eq_ok_iff.2 ⟨_, rfl, fun _ => rfl, hdecode⟩, rfl⟩
  refine Binder.bindType_eq_ok_iff.2 ⟨sensorSchema, sensor.subject, Catalog.byTarget?_eq_some_iff.2 ⟨hs, rfl⟩,
    by decide +kernel, Binder.bindSubject_eq_ok_iff.2 ⟨rfl, rfl, .cons ?_ .nil⟩⟩
  have htype : Datatypes.builtin.valueType? Xsd.integer = some .integer := by
    rw [Datatypes.valueType?, hinteger]
    rfl
  refine Binder.bindProperty_eq_ok_iff.2 ⟨htype.symm, rfl, ?_⟩
  rw [hobjects]
  exact .cons (hread "1" (by decide +kernel)) (.cons (hread "01" (by decide +kernel)) .nil)

theorem triples_sensor : sensor.triples .builtin = .ok sensorTriples := by decide +kernel

theorem includes_sensorSchema {t : Schema} (h : sensorSchema.Includes t) : t = sensorSchema := by
  rcases Relation.ReflTransGen.cases_head h with rfl | ⟨u, hu, -⟩
  · rfl
  · exact (List.not_mem_nil hu).elim

theorem sensorSchema_exact {t : Schema} (h : sensorSchema.Includes t) {p : Property Schema} (hp : p ∈ t.properties) :
    p.kind ≠ .datatype Xsd.double ∧ p.kind ≠ .datatype Xsd.float := by
  rw [includes_sensorSchema h] at hp
  obtain rfl := List.mem_singleton.1 hp
  decide

end Example

open Example in
/-- **An entity with two readings of one number does not come back**: the number is written once. -/
theorem Catalog.not_bindType_triples_readings : ∃ c, compile {} ∅ default sensorShapes = .ok c ∧
    sensorSchema ∈ c.schemas ∧
    (∀ t, sensorSchema.Includes t → ∀ p ∈ t.properties, p.kind ≠ .datatype Xsd.double ∧ p.kind ≠ .datatype Xsd.float) ∧
    ∀ strict, (Binder.mk c .builtin strict).bindType readings sensorSchema.targetType = .ok sensor ∧
      sensor.triples .builtin = .ok sensorTriples ∧
      ¬ ∃ e', (Binder.mk c .builtin strict).bindType (Graph.ofList sensorTriples) sensorSchema.targetType = .ok e' ∧
        (e' == sensor) = true := by
  obtain ⟨c, hc, hschemas⟩ := compile_sensorShapes
  have hs : sensorSchema ∈ c.schemas := by
    rw [hschemas]
    exact List.mem_singleton_self _
  refine ⟨c, hc, hs, fun t ht p hp => sensorSchema_exact ht hp, fun strict => ?_⟩
  have hbound := bindType_readings hs strict
  refine ⟨hbound, triples_sensor, ?_⟩
  have hroots : Binder.roots (Graph.ofList sensorTriples) sensor.schema = [sensor.subject] := by decide +kernel
  have hfits : sensor.Fits .builtin := by
    obtain ⟨_, _, -, -, h⟩ := Binder.bindType_eq_ok_iff.1 hbound
    obtain ⟨rfl, rfl, -⟩ := Binder.bindSubject_eq_ok_iff.1 h
    exact Binder.fits_of_bindSubject h
  have hreturns := Binder.exists_bindType_beq_iff (b := Binder.mk c .builtin strict) hs hroots
  intro hreturn
  have hreads := (Binder.rebinds_iff hfits).1 (hreturns.1 hreturn) sensor (Entity.mem_family_self _) _
    (List.mem_cons_self ..)
  -- one object for two values
  have hlength : ((Graph.ofList sensorTriples).objects sensor.subject (.iri "http://example.org/reading")).length =
      1 := by decide +kernel
  exact absurd (hlength.symm.trans hreads.length_eq) (by decide)

open Example in
/-- What the two readings of one number come to where the datatypes of literals are checked: an entity that comes back
just if its values are distinct. -/
theorem Catalog.exists_bindType_triples_sensor : ∃ c, compile {} ∅ default sensorShapes = .ok c ∧
    sensorSchema ∈ c.schemas ∧ (Binder.mk c .builtin true).bindType readings sensorSchema.targetType = .ok sensor ∧
    ∃ ts, sensor.triples .builtin = .ok ts ∧
      ((∃ e', (Binder.mk c .builtin true).bindType (Graph.ofList ts) sensorSchema.targetType = .ok e' ∧
        (e' == sensor) = true) ↔ sensor.LiteralsDistinct) := by
  obtain ⟨c, hc, hschemas⟩ := compile_sensorShapes
  have hs : sensorSchema ∈ c.schemas := by
    rw [hschemas]
    exact List.mem_singleton_self _
  have hbound := bindType_readings hs true
  obtain ⟨ts, hts, -, hdistinct⟩ :=
    exists_bindType_triples_iff hc hs (fun t ht p hp => sensorSchema_exact ht hp) hbound
  refine ⟨c, hc, hs, hbound, ts, hts, hdistinct (fun t ht p hp => ?_) (.inl rfl)⟩
  rw [includes_sensorSchema ht] at hp
  obtain rfl := List.mem_singleton.1 hp
  decide

end ShapeBinding
