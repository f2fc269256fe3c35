import ShapeBinding.Datatype.Builtin
import ShapeBinding.Entity.Triples
import ShapeBinding.Proofs.Bind.Exact
import ShapeBinding.Proofs.Compile.Content
import ShapeBinding.Proofs.Entity.Obtained
/-!
# What strict compilation rules out

A strict compilation accepts only datatypes that have a converter.  What it accepts is accepted with the same result
when compiling is not strict (`Catalog.compile_of_strict`), and all the schemas of the catalog, those nested in them
included, then have known datatypes (`Catalog.known_of_compile`).  Nothing that is done later with these schemas is
refused for want of a converter: not binding, whatever the graph, not setting values and not writing
(`Catalog.Supports`).
-/
namespace ShapeBinding

/-! ## Strict and lenient compilation -/

section Lenient

variable {dt : String} {ds ds' : Datatypes} {ns : Namespaces} {shapes : List Shape} {c : Catalog}

theorem PropertyShape.compile_of_strict {shape : String} {q : PropertyShape} {p : Property Schema}
    (h : q.compile ⟨dt, true⟩ ds shapes c shape = .ok p) : q.compile ⟨dt, false⟩ ds' shapes c shape = .ok p := by
  have hknown : ∀ iri kind, compileKind.known ⟨dt, true⟩ ds shape q iri = .ok kind →
      compileKind.known ⟨dt, false⟩ ds' shape q iri = .ok kind := by
    intro iri kind hk
    exact known_eq_ok_iff.2 ⟨rfl, (known_eq_ok_iff.1 hk).2⟩
  obtain ⟨kind, hkind, hp⟩ := bind_eq_ok_iff.1 h
  refine bind_eq_ok_iff.2 ⟨kind, ?_, hp⟩
  unfold compileKind at hkind ⊢
  split at hkind
  · exact hkind
  · exact hknown _ kind hkind
  · exact hknown _ kind hkind

theorem Shape.compile_of_strict {d : Shape} {s : Schema} (h : d.compile ⟨dt, true⟩ ds shapes c = .ok s) :
    d.compile ⟨dt, false⟩ ds' shapes c = .ok s := by
  obtain ⟨ps, hps, hs⟩ := bind_eq_ok_iff.1 h
  exact bind_eq_ok_iff.2 ⟨ps, mapM_mono (fun _ _ => PropertyShape.compile_of_strict) hps, hs⟩

/-- **What is compiled strictly is compiled to the same catalog without**, whatever converters there are then. -/
theorem Catalog.compile_of_strict {g : Graph} (h : compile ⟨dt, true⟩ ds ns g = .ok c) :
    compile ⟨dt, false⟩ ds' ns g = .ok c := by
  obtain ⟨shapes, hshapes, h⟩ := bind_eq_ok_iff.1 h
  obtain ⟨positions, hpositions, h⟩ := bind_eq_ok_iff.1 h
  refine bind_eq_ok_iff.2 ⟨shapes, hshapes, bind_eq_ok_iff.2 ⟨positions, hpositions, foldlM_mono ?_ h⟩⟩
  intro c d c' hd
  obtain ⟨s, hs, hregister⟩ := bind_eq_ok_iff.1 hd
  exact bind_eq_ok_iff.2 ⟨s, Shape.compile_of_strict hs, hregister⟩

end Lenient

/-! ## Known datatypes -/

/-- The datatypes of the schema's own properties have converters. -/
def Schema.Known (ds : Datatypes) (s : Schema) : Prop :=
  ∀ p ∈ s.properties, ∀ iri, p.kind = .datatype iri → ds.contains iri = true

theorem Property.Compiled.exists_datatype {o : CompileOptions} {ns : Namespaces} {schemas : List Schema}
    {q : PropertyShape} {p : Property Schema} (h : p.Compiled o ns schemas q) {iri : String}
    (hk : p.kind = .datatype iri) : q.datatype? o = some iri := by
  cases hq : q.datatype? o with
  | some iri' =>
    rw [(h.datatype_eq iri' hq).1] at hk
    cases hk
    rfl
  | none =>
    -- a property shape without a datatype refers to a shape
    obtain ⟨y, hy⟩ : ∃ y, q.kind = some (.nested y) := by
      unfold PropertyShape.datatype? at hq
      split at hq <;> simp_all
    obtain ⟨t, -, -, hkind, -⟩ := h.nested_eq y hy
    rw [hkind] at hk
    cases hk

/-- **Every schema of a strictly compiled catalog has known datatypes.** -/
theorem Catalog.known_of_compile {dt : String} {ds : Datatypes} {ns : Namespaces} {g : Graph} {c : Catalog}
    (h : compile ⟨dt, true⟩ ds ns g = .ok c) {s : Schema} (hs : s ∈ c.schemas) : s.Known ds := by
  intro p hp iri hk
  have hdescribes := (describes_of_compile h).schemas_describe s hs
  obtain ⟨d, hread, hname, -⟩ := hdescribes.described
  have hshape : g.IsShape s.shape := ((describes_of_compile h).mem_shapes_iff _).1 (List.mem_map_of_mem hs)
  obtain ⟨node, hnode, q, hq, hpq⟩ := exists_left_of_forall₂ hdescribes.properties_eq hp
  have hmem : q ∈ d.properties := by
    obtain ⟨q', hq', hread'⟩ := exists_right_of_forall₂ (Shape.forall₂_read hread) hnode
    rw [← hname, hq] at hread'
    cases hread'
    exact hq'
  exact (exists_compile_iff.1 ⟨c, h⟩).datatypes_known rfl s.shape d hshape hread q hmem iri (hpq.exists_datatype hk)

/-! ## Runs that want no converter -/

/-- **The run is not refused for want of a converter**, neither here nor in anything that is nested. -/
def Supported {α : Type} (r : Except BindError α) : Prop :=
  ∀ property datatype, r ≠ .error (.convert property (.unsupportedDatatype datatype))

namespace Supported

variable {α β : Type}

theorem ok (a : α) : Supported (.ok a) := nofun

theorem bind {x : Except BindError α} {f : α → Except BindError β} (hx : Supported x)
    (hf : ∀ a, x = .ok a → Supported (f a)) : Supported (x >>= f) := by
  intro property datatype h
  rcases bind_eq_error_iff.1 h with h | ⟨a, ha, h⟩
  · exact hx property datatype h
  · exact hf a ha property datatype h

theorem mapM {f : α → Except BindError β} {as : List α} (h : ∀ a ∈ as, Supported (f a)) : Supported (as.mapM f) := by
  intro property datatype herr
  obtain ⟨_, a, _, rfl, -, ha⟩ := mapM_eq_error_iff.1 herr
  exact h a (by simp) property datatype ha

theorem forM {f : α → Except BindError Unit} : ∀ {as : List α}, (∀ a ∈ as, Supported (f a)) → Supported (as.forM f)
  | [], _ => ok ()
  | a :: as, h => by
    rw [List.forall_mem_cons] at h
    exact bind h.1 fun _ _ => forM h.2

end Supported

theorem Datatypes.decode_ne_unsupported {ds : Datatypes} {iri : String} (h : ds.contains iri = true)
    (lexical datatype : String) : ds.decode iri lexical ≠ .error (.unsupportedDatatype datatype) := by
  obtain ⟨c, hc⟩ := Option.isSome_iff_exists.1 h
  unfold decode
  rw [hc]
  cases hdecode : c.decode lexical <;> simp [hdecode]

theorem Datatypes.encode_ne_unsupported {ds : Datatypes} {iri : String} (h : ds.contains iri = true) (v : Value)
    (datatype : String) : ds.encode iri v ≠ .error (.unsupportedDatatype datatype) := by
  obtain ⟨c, hc⟩ := Option.isSome_iff_exists.1 h
  unfold encode
  by_cases htype : v.type = c.valueType
  · cases hencode : c.encode v <;> simp [hc, htype, hencode]
  · simp [hc, htype]

/-! ## Binding -/

namespace Binder

variable {b : Binder} {g : Graph}

/-- **Binding to schemas with known datatypes wants no converter**, whatever the subject and the graph are. -/
theorem supported_bindSubject {s : Schema} (h : ∀ t, s.Includes t → t.Known b.datatypes) (x : Term) :
    Supported (b.bindSubject g x s) := by
  induction s using Schema.induction generalizing x with
  | h s ih =>
    intro property datatype herr
    obtain ⟨_, p, _, heq, -, hfails⟩ := bindSubject_eq_error_iff.1 herr
    have hp : p ∈ s.properties := by simp [heq]
    cases hfails with
    | object hfirst =>
      obtain ⟨_, o, _, _, -, hrejects⟩ := hfirst
      cases hrejects with
      | undecodable hk _ _ hdecode => exact Datatypes.decode_ne_unsupported (h s .refl p hp _ hk) _ _ hdecode
      | nested hk _ hbind =>
        have ht := Schema.mem_dependencies.2 ⟨p, hp, hk⟩
        exact ih _ ht (fun u hu => h u (hu.head ht)) o property datatype hbind

theorem supported_bind {s : Schema} (h : ∀ t, s.Includes t → t.Known b.datatypes) : Supported (b.bind g s) := by
  intro property datatype herr
  cases bind_eq_error_iff_rootFails.1 herr with
  | subject _ h' => exact supported_bindSubject h _ property datatype h'

end Binder

/-! ## Setting and writing -/

namespace Entity

variable {ds : Datatypes} {e : Entity}

theorem supported_checkKind {p : Property Schema} {type : Option ValueType} {f : Field Entity}
    (h : ∀ iri, p.kind = .datatype iri → type.isSome = true) : Supported (checkKind p type f) := by
  unfold checkKind
  split
  · rename_i iri v hk
    obtain ⟨t, rfl⟩ := Option.isSome_iff_exists.1 (h iri hk)
    by_cases hv : v.type = t
    · simpa [hv] using .ok ()
    · simp [hv, Supported, Property.otherKind]
  · split <;> nofun
  · nofun

theorem supported_set (h : e.Obtained ds) (hknown : e.schema.Known ds) (name : String) (values : List (Field Entity)) :
    Supported (e.set name values) := by
  rw [set, setCall, Call.result_checkThen, checkChange]
  refine .bind (.bind ?_ fun c hc => .bind (.forM fun f _ => supported_checkKind fun iri hk => ?_) fun _ _ => ?_)
    fun _ _ => .ok _
  · intro property datatype herr
    rw [lookup] at herr
    cases hlookup : e.lookup? name <;> rw [hlookup] at herr <;> cases herr
  · have hmem := List.mem_of_find?_eq_some (lookup_eq_ok_iff.1 hc)
    rw [((List.forall₂_iff_zip.1 h.aligned).2 hmem).valueType_eq]
    simpa [literalType?, Property.datatype?, hk, Datatypes.valueType?, Datatypes.contains] using
      hknown c.1 (List.of_mem_zip hmem).1 iri hk
  · intro property datatype herr
    obtain ⟨max, -, -, heq⟩ := Binder.checkCount_eq_error_iff.1 herr
    cases heq

theorem supported_encodeLiteral {iri : String} (h : ds.contains iri = true) (name : String) (v : Value) :
    Supported (encodeLiteral ds name iri v) := by
  intro property datatype herr
  unfold encodeLiteral at herr
  cases hencode : ds.encode iri v with
  | ok lexical => simp [hencode] at herr
  | error err =>
    simp only [hencode, Except.error.injEq, BindError.convert.injEq] at herr
    exact Datatypes.encode_ne_unsupported h v datatype (by rw [hencode, herr.2])

theorem supported_fieldTriples {x : Term} {p : Property Schema} {f : Field Entity}
    (h : ∀ iri, p.kind = .datatype iri → ds.contains iri = true) (hf : ∀ m, f = .entity m → Supported (m.triples ds)) :
    Supported (fieldTriples ds x p f) := by
  cases f with
  | literal v =>
    rw [fieldTriples]
    cases hk : p.kind with
    | nested s => nofun
    | datatype iri => exact .bind (supported_encodeLiteral (h iri hk) _ v) fun _ _ => .ok _
  | entity m =>
    rw [fieldTriples]
    cases hk : p.kind with
    | nested s => exact .bind (hf m rfl) fun _ _ => .ok _
    | datatype iri => nofun

theorem supported_fieldsTriples {x : Term} {p : Property Schema} : ∀ {fs : List (Field Entity)},
    (∀ f ∈ fs, Supported (fieldTriples ds x p f)) → Supported (fieldsTriples ds x p fs)
  | [], _ => by
    rw [fieldsTriples]
    exact .ok _
  | f :: fs, h => by
    rw [List.forall_mem_cons] at h
    rw [fieldsTriples]
    exact .bind h.1 fun _ _ => .bind (supported_fieldsTriples h.2) fun _ _ => .ok _

theorem supported_slotsTriples {x : Term} : ∀ {ps : List (Property Schema)} {ss : List (Slot Entity)},
    (∀ c ∈ ps.zip ss, Supported (fieldsTriples ds x c.1 c.2.values)) → Supported (slotsTriples ds x ps ss)
  | [], _, _ => by
    rw [slotsTriples]
    · exact .ok _
    · nofun
  | _ :: _, [], _ => by
    rw [slotsTriples]
    · exact .ok _
    · nofun
  | p :: ps, ⟨type, values⟩ :: ss, h => by
    rw [List.zip_cons_cons, List.forall_mem_cons] at h
    rw [slotsTriples, slotTriples]
    exact .bind h.1 fun _ _ => .bind (supported_slotsTriples h.2) fun _ _ => .ok _

/-- **Writing wants no converter** if every member of the family is over a schema with known datatypes. -/
theorem supported_triples (h : ∀ n ∈ e.family, n.schema.Known ds) : Supported (e.triples ds) := by
  induction e using Entity.induction with
  | h e ih =>
    have hslots : Supported (slotsTriples ds e.subject e.schema.properties e.slots) := by
      refine supported_slotsTriples fun c hc => supported_fieldsTriples fun f hf => supported_fieldTriples ?_ ?_
      · exact h e e.mem_family_self c.1 (List.of_mem_zip hc).1
      · intro m hm
        have hchild := mem_children.2 ⟨c, hc, hm ▸ hf⟩
        exact ih m hchild fun n hn => h n (mem_family_of_mem_children hchild hn)
    cases e
    rw [triples]
    exact .bind hslots fun _ _ => .ok _

end Entity

/-! ## After a strict compilation -/

/-- **No run over the catalog's schemas wants a converter**: not binding in any of the four ways, strict or not, not
setting values of an entity, however it came about, and not writing a bound entity. -/
structure Catalog.Supports (ds : Datatypes) (c : Catalog) : Prop where
  bindSubject : ∀ strict g x, ∀ s ∈ c.schemas, Supported ((Binder.mk c ds strict).bindSubject g x s)
  bind : ∀ strict g, ∀ s ∈ c.schemas, Supported ((Binder.mk c ds strict).bind g s)
  bindType : ∀ strict g target, Supported ((Binder.mk c ds strict).bindType g target)
  bindAll : ∀ strict g, ∀ s ∈ c.schemas, Supported ((Binder.mk c ds strict).bindAll g s)
  set : ∀ e : Entity, e.Obtained ds → e.schema ∈ c.schemas → ∀ name values, Supported (e.set name values)
  triples : ∀ strict g e, (Binder.mk c ds strict).Yields g e → e.schema ∈ c.schemas → Supported (e.triples ds)

/-- **A strict compilation rules out that a converter is wanted later**, and changes nothing else. -/
theorem Catalog.supports_of_compile {dt : String} {ds : Datatypes} {ns : Namespaces} {g : Graph} {c : Catalog}
    (h : compile ⟨dt, true⟩ ds ns g = .ok c) : (∀ ds', compile ⟨dt, false⟩ ds' ns g = .ok c) ∧ c.Supports ds := by
  have hincluded : ∀ s ∈ c.schemas, ∀ t, s.Includes t → t.Known ds := fun s hs t ht =>
    known_of_compile h ((describes_of_compile h).mem_schemas_of_includes hs ht)
  refine ⟨fun ds' => compile_of_strict h, ?_⟩
  constructor
  · exact fun strict g x s hs => Binder.supported_bindSubject (hincluded s hs) x
  · exact fun strict g s hs => Binder.supported_bind (hincluded s hs)
  · intro strict g target
    unfold Binder.bindType
    cases hfound : c.byTarget? target with
    | none => nofun
    | some s => exact Binder.supported_bind (hincluded s (byTarget?_eq_some_iff.1 hfound).1)
  · exact fun strict g s hs => .mapM fun root _ => Binder.supported_bindSubject (hincluded s hs) root
  · exact fun e he hs => Entity.supported_set he (known_of_compile h hs)
  · intro strict g e he hs
    have hfits := Binder.fits_of_bindSubject (Binder.bindSubject_of_yields he)
    exact Entity.supported_triples fun n hn => hincluded e.schema hs n.schema (hfits.includes hn)

/-! ## Notes with stamps -/

namespace Example

/-- A note has a text, whose datatype is left to the default, and a stamp, which has a date. -/
def noteShapes : Graph := .ofList [
  ⟨.iri "http://example.org/NoteShape", .iri Rdf.type, .iri Sh.nodeShape⟩,
  ⟨.iri "http://example.org/NoteShape", .iri Sh.targetClass, .iri "http://example.org/Note"⟩,
  ⟨.iri "http://example.org/NoteShape", .iri Sh.property, .blank "text"⟩,
  ⟨.blank "text", .iri Sh.name, .string "text"⟩,
  ⟨.blank "text", .iri Sh.path, .iri "http://example.org/text"⟩,
  ⟨.iri "http://example.org/NoteShape", .iri Sh.property, .blank "stamp"⟩,
  ⟨.blank "stamp", .iri Sh.name, .string "stamp"⟩,
  ⟨.blank "stamp", .iri Sh.path, .iri "http://example.org/stamp"⟩,
  ⟨.blank "stamp", .iri Sh.node, .iri "http://example.org/StampShape"⟩,
  ⟨.iri "http://example.org/StampShape", .iri Rdf.type, .iri Sh.shape⟩,
  ⟨.iri "http://example.org/StampShape", .iri Sh.targetClass, .iri "http://example.org/Stamp"⟩,
  ⟨.iri "http://example.org/StampShape", .iri Sh.property, .blank "date"⟩,
  ⟨.blank "date", .iri Sh.name, .string "date"⟩,
  ⟨.blank "date", .iri Sh.path, .iri "http://example.org/date"⟩,
  ⟨.blank "date", .iri Sh.datatype, .iri Xsd.date⟩]

end Example

open Example in
/-- The notes are compiled strictly with the built-in datatypes, and want no converter later. -/
theorem Catalog.supports_notes : ∃ c, compile ⟨Xsd.string, true⟩ .builtin ∅ noteShapes = .ok c ∧
    c.schemas.length = 2 ∧ (∀ ds', compile ⟨Xsd.string, false⟩ ds' ∅ noteShapes = .ok c) ∧ c.Supports .builtin := by
  have h : (compile ⟨Xsd.string, true⟩ .builtin ∅ noteShapes).toOption.map (·.schemas.length) = some 2 := by
    decide +kernel
  cases hc : compile ⟨Xsd.string, true⟩ .builtin ∅ noteShapes with
  | error e =>
    rw [hc] at h
    cases h
  | ok c =>
    rw [hc] at h
    exact ⟨c, rfl, Option.some.inj h, supports_of_compile hc⟩

end ShapeBinding
