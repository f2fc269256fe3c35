import ShapeBinding.Entity.Triples
import ShapeBinding.Proofs.Entity.Family
import ShapeBinding.Proofs.Graph.Objects
/-!
# What an entity is written as

Each value is written as one object (`Field.Writes`), and an entity as its type followed by its values, each with all
that is nested in it right behind.  An entity can be written just when every value in its family can
(`Entity.exists_triples_iff`), and then the triples are the types and the values of its members and nothing else
(`Entity.mem_triples`).  Members may share a subject; but where all that write under a subject and a predicate write the
same objects, these are what a graph holds there (`Entity.objects_ofList_triples`).
-/
namespace ShapeBinding

/-- A value under a property is written as an object: a literal in the declared datatype, or the subject of a nested
entity. -/
def Field.Writes (ds : Datatypes) (p : Property Schema) : Field Entity → Term → Prop
  | .literal v, o => ∃ iri lexical, p.kind = .datatype iri ∧ ds.encode iri v = .ok lexical ∧ o = .typed lexical iri
  | .entity m, o => (∃ s, p.kind = .nested s) ∧ o = m.subject

/-- What is written behind the triple of a value: all that is nested in it. -/
def Field.Trails (ds : Datatypes) : Field Entity → List Triple → Prop
  | .literal _, ts => ts = []
  | .entity m, ts => m.triples ds = .ok ts

namespace Field

variable {ds : Datatypes} {p : Property Schema}

theorem Writes.unique {f : Field Entity} {o o' : Term} (h : f.Writes ds p o) (h' : f.Writes ds p o') : o = o' := by
  cases f with
  | literal v =>
    obtain ⟨iri, lexical, hk, hl, rfl⟩ := h
    obtain ⟨iri', lexical', hk', hl', rfl⟩ := h'
    rw [hk] at hk'
    cases hk'
    rw [hl] at hl'
    cases hl'
    rfl
  | entity m => rw [h.2, h'.2]

theorem writes_congr {p p' : Property Schema} (hk : p.kind = p'.kind) {f : Field Entity} {o : Term} :
    f.Writes ds p o ↔ f.Writes ds p' o := by
  cases f <;> simp only [Writes, hk]

theorem writes_literal_of_kind {iri : String} (hk : p.kind = .datatype iri) {v : Value} {o : Term} :
    (literal v).Writes ds p o ↔ ∃ lexical, ds.encode iri v = .ok lexical ∧ o = .typed lexical iri := by
  simp only [Writes, hk, ValueKind.datatype.injEq]
  constructor
  · rintro ⟨_, lexical, rfl, h⟩
    exact ⟨lexical, h⟩
  · rintro ⟨lexical, h⟩
    exact ⟨iri, lexical, rfl, h⟩

theorem Writes.exists_literal {iri : String} (hk : p.kind = .datatype iri) {f : Field Entity} {o : Term}
    (h : f.Writes ds p o) : ∃ v, f = .literal v := by
  cases f with
  | literal v => exact ⟨v, rfl⟩
  | entity m =>
    obtain ⟨⟨_, hk'⟩, -⟩ := h
    rw [hk] at hk'
    cases hk'

end Field

namespace Entity

variable {ds : Datatypes}

/-! ## Accepted writing, level by level -/

theorem encodeLiteral_eq_ok_iff {property datatype : String} {v : Value} {o : Term} :
    encodeLiteral ds property datatype v = .ok o ↔
      ∃ lexical, ds.encode datatype v = .ok lexical ∧ o = .typed lexical datatype := by
  unfold encodeLiteral
  cases ds.encode datatype v <;> simp [eq_comm]

theorem fieldTriples_eq_ok_iff {x : Term} {p : Property Schema} {f : Field Entity} {ts : List Triple} :
    fieldTriples ds x p f = .ok ts ↔ ∃ o us, f.Writes ds p o ∧ f.Trails ds us ∧ ts = ⟨x, .iri p.path, o⟩ :: us := by
  cases f with
  | literal v =>
    rw [fieldTriples]
    cases hk : p.kind with
    | nested s => simp [Field.Writes, hk]
    | datatype iri =>
      simp only [bind_eq_ok_iff, encodeLiteral_eq_ok_iff, Field.writes_literal_of_kind hk, Field.Trails]
      constructor
      · rintro ⟨o, ho, ⟨⟩⟩
        exact ⟨o, [], ho, rfl, rfl⟩
      · rintro ⟨o, _, ho, rfl, rfl⟩
        exact ⟨o, ho, rfl⟩
  | entity m =>
    rw [fieldTriples]
    cases hk : p.kind with
    | datatype iri => simp [Field.Writes, hk]
    | nested s =>
      simp only [bind_eq_ok_iff, Field.Writes, hk, Field.Trails]
      constructor
      · rintro ⟨us, hus, ⟨⟩⟩
        exact ⟨m.subject, us, ⟨⟨s, rfl⟩, rfl⟩, hus, rfl⟩
      · rintro ⟨_, us, ⟨-, rfl⟩, hus, rfl⟩
        exact ⟨us, hus, rfl⟩

theorem fieldsTriples_eq_ok_iff {x : Term} {p : Property Schema} : ∀ {fs : List (Field Entity)} {ts : List Triple},
    fieldsTriples ds x p fs = .ok ts ↔
      ∃ tss, List.Forall₂ (fun f us => fieldTriples ds x p f = .ok us) fs tss ∧ ts = tss.flatten
  | [], ts => by
    rw [fieldsTriples]
    constructor
    · rintro ⟨⟩
      exact ⟨[], .nil, rfl⟩
    · rintro ⟨_, ⟨⟩, rfl⟩
      rfl
  | f :: fs, ts => by
    rw [fieldsTriples]
    simp only [bind_eq_ok_iff, fieldsTriples_eq_ok_iff]
    constructor
    · rintro ⟨us, hus, _, ⟨tss, htss, rfl⟩, ⟨⟩⟩
      exact ⟨us :: tss, .cons hus htss, rfl⟩
    · rintro ⟨tss, h, rfl⟩
      cases h with
      | cons hus htss => exact ⟨_, hus, _, ⟨_, htss, rfl⟩, rfl⟩

theorem slotsTriples_eq_ok_iff {x : Term} :
    ∀ {ps : List (Property Schema)} {ss : List (Slot Entity)} {ts : List Triple}, slotsTriples ds x ps ss = .ok ts ↔
      ∃ tss, List.Forall₂ (fun c us => fieldsTriples ds x c.1 c.2.values = .ok us) (ps.zip ss) tss ∧ ts = tss.flatten
  | [], _, ts => by
    rw [slotsTriples, List.zip_nil_left]
    · simp [eq_comm]
    · nofun
  | _ :: _, [], ts => by
    rw [slotsTriples, List.zip_nil_right]
    · simp [eq_comm]
    · nofun
  | p :: ps, ⟨type, values⟩ :: ss, ts => by
    rw [slotsTriples, slotTriples, List.zip_cons_cons]
    simp only [bind_eq_ok_iff, slotsTriples_eq_ok_iff]
    constructor
    · rintro ⟨us, hus, _, ⟨tss, htss, rfl⟩, ⟨⟩⟩
      exact ⟨us :: tss, .cons hus htss, rfl⟩
    · rintro ⟨tss, h, rfl⟩
      cases h with
      | cons hus htss => exact ⟨_, hus, _, ⟨_, htss, rfl⟩, rfl⟩

/-- The triple that gives the type. -/
def typeTriple (e : Entity) : Triple := ⟨e.subject, .iri Rdf.type, .iri e.schema.targetType⟩

/-- **An accepted writing** wrote the type and then every property, in order. -/
theorem triples_eq_ok_iff {e : Entity} {ts : List Triple} : e.triples ds = .ok ts ↔
    ∃ tss, List.Forall₂ (fun c us => fieldsTriples ds e.subject c.1 c.2.values = .ok us) e.cells tss ∧
      ts = e.typeTriple :: tss.flatten := by
  obtain ⟨schema, subject, slots⟩ := e
  rw [triples]
  simp only [bind_eq_ok_iff, slotsTriples_eq_ok_iff]
  constructor
  · rintro ⟨_, ⟨tss, htss, rfl⟩, ⟨⟩⟩
    exact ⟨tss, htss, rfl⟩
  · rintro ⟨tss, htss, rfl⟩
    exact ⟨_, ⟨tss, htss, rfl⟩, rfl⟩

/-! ## When an entity can be written -/

theorem exists_fieldTriples_iff {x : Term} {p : Property Schema} {f : Field Entity} :
    (∃ ts, fieldTriples ds x p f = .ok ts) ↔
      (∃ o, f.Writes ds p o) ∧ ∀ m, f = .entity m → ∃ us, m.triples ds = .ok us := by
  simp only [fieldTriples_eq_ok_iff]
  constructor
  · rintro ⟨_, o, us, ho, hus, -⟩
    exact ⟨⟨o, ho⟩, fun m hm => ⟨us, by rwa [hm] at hus⟩⟩
  · rintro ⟨⟨o, ho⟩, hm⟩
    cases f with
    | literal v => exact ⟨_, o, [], ho, rfl, rfl⟩
    | entity m =>
      obtain ⟨us, hus⟩ := hm m rfl
      exact ⟨_, o, us, ho, hus, rfl⟩

theorem exists_triples_iff_children {e : Entity} : (∃ ts, e.triples ds = .ok ts) ↔
    (∀ c ∈ e.cells, ∀ f ∈ c.2.values, ∃ o, f.Writes ds c.1 o) ∧ ∀ m ∈ e.children, ∃ us, m.triples ds = .ok us := by
  have hfields : ∀ {x : Term} {p : Property Schema} {fs : List (Field Entity)},
      (∃ ts, fieldsTriples ds x p fs = .ok ts) ↔ ∀ f ∈ fs, ∃ us, fieldTriples ds x p f = .ok us := by
    intro x p fs
    simp only [fieldsTriples_eq_ok_iff, ← mapM_eq_ok_iff, ← exists_mapM_eq_ok_iff]
    exact ⟨fun ⟨_, tss, htss, _⟩ => ⟨tss, htss⟩, fun ⟨tss, htss⟩ => ⟨_, tss, htss, rfl⟩⟩
  have hcells : (∃ ts, e.triples ds = .ok ts) ↔
      ∀ c ∈ e.cells, ∃ us, fieldsTriples ds e.subject c.1 c.2.values = .ok us := by
    simp only [triples_eq_ok_iff, ← mapM_eq_ok_iff, ← exists_mapM_eq_ok_iff]
    exact ⟨fun ⟨_, tss, htss, _⟩ => ⟨tss, htss⟩, fun ⟨tss, htss⟩ => ⟨_, tss, htss, rfl⟩⟩
  simp only [hcells, hfields, exists_fieldTriples_iff]
  constructor
  · intro h
    refine ⟨fun c hc f hf => (h c hc f hf).1, fun m hm => ?_⟩
    obtain ⟨c, hc, hf⟩ := mem_children.1 hm
    exact (h c hc _ hf).2 m rfl
  · rintro ⟨hwrites, hchildren⟩ c hc f hf
    exact ⟨hwrites c hc f hf, fun m hm => hchildren m (mem_children.2 ⟨c, hc, hm ▸ hf⟩)⟩

/-- **An entity can be written just when every value in its family can.** -/
theorem exists_triples_iff {e : Entity} : (∃ ts, e.triples ds = .ok ts) ↔
    ∀ n ∈ e.family, ∀ c ∈ n.cells, ∀ f ∈ c.2.values, ∃ o, f.Writes ds c.1 o := by
  induction e using Entity.induction with
  | h e ih =>
    rw [exists_triples_iff_children]
    constructor
    · rintro ⟨hwrites, hchildren⟩ n hn
      rcases mem_family_iff.1 hn with rfl | ⟨m, hm, hnm⟩
      · exact hwrites
      · exact (ih m hm).1 (hchildren m hm) n hnm
    · intro h
      refine ⟨h e (mem_family_self e), fun m hm => (ih m hm).2 fun n hn => ?_⟩
      exact h n (mem_family_of_mem_children hm hn)

/-! ## Which triples are written -/

/-- A triple is an entity's own: its type, or one of its values. -/
def Owns (ds : Datatypes) (e : Entity) (t : Triple) : Prop :=
  t = e.typeTriple ∨ ∃ c ∈ e.cells, ∃ f ∈ c.2.values, ∃ o, f.Writes ds c.1 o ∧ t = ⟨e.subject, .iri c.1.path, o⟩

theorem mem_triples_iff_children {e : Entity} {ts : List Triple} (h : e.triples ds = .ok ts) {t : Triple} :
    t ∈ ts ↔ e.Owns ds t ∨ ∃ m ∈ e.children, ∃ us, m.triples ds = .ok us ∧ t ∈ us := by
  obtain ⟨tss, htss, rfl⟩ := triples_eq_ok_iff.1 h
  rw [List.mem_cons, Owns, or_assoc]
  refine or_congr_right ?_
  rw [List.mem_flatten]
  constructor
  · rintro ⟨us, hus, ht⟩
    obtain ⟨c, hc, hfields⟩ := exists_left_of_forall₂ htss hus
    obtain ⟨uss, huss, rfl⟩ := fieldsTriples_eq_ok_iff.1 hfields
    obtain ⟨vs, hvs, ht⟩ := List.mem_flatten.1 ht
    obtain ⟨f, hf, hfield⟩ := exists_left_of_forall₂ huss hvs
    obtain ⟨o, ws, ho, hws, rfl⟩ := fieldTriples_eq_ok_iff.1 hfield
    rcases List.mem_cons.1 ht with rfl | ht
    · exact .inl ⟨c, hc, f, hf, o, ho, rfl⟩
    · cases f with
      | literal v =>
        cases hws
        exact (List.not_mem_nil ht).elim
      | entity m => exact .inr ⟨m, mem_children.2 ⟨c, hc, hf⟩, ws, hws, ht⟩
  · intro ht
    -- the triples that were written for a value are among those of its cell
    have hfield : ∀ c ∈ e.cells, ∀ f ∈ c.2.values, ∃ o ws us, f.Writes ds c.1 o ∧ f.Trails ds ws ∧ us ∈ tss ∧
        ∀ t, t = ⟨e.subject, .iri c.1.path, o⟩ ∨ t ∈ ws → t ∈ us := by
      intro c hc f hf
      obtain ⟨us, hus, hfields⟩ := exists_right_of_forall₂ htss hc
      obtain ⟨uss, huss, rfl⟩ := fieldsTriples_eq_ok_iff.1 hfields
      obtain ⟨vs, hvs, hfield⟩ := exists_right_of_forall₂ huss hf
      obtain ⟨o, ws, ho, hws, rfl⟩ := fieldTriples_eq_ok_iff.1 hfield
      exact ⟨o, ws, _, ho, hws, hus, fun t ht => List.mem_flatten.2 ⟨_, hvs, List.mem_cons.2 ht⟩⟩
    rcases ht with ⟨c, hc, f, hf, o, ho, rfl⟩ | ⟨m, hm, ws, hws, ht⟩
    · obtain ⟨o', _, us, ho', -, hus, hmem⟩ := hfield c hc f hf
      exact ⟨us, hus, hmem _ (.inl (by rw [ho.unique ho']))⟩
    · obtain ⟨c, hc, hf⟩ := mem_children.1 hm
      obtain ⟨_, ws', us, -, hws', hus, hmem⟩ := hfield c hc _ hf
      have : ws = ws' := Except.ok.inj (hws.symm.trans hws')
      exact ⟨us, hus, hmem _ (.inr (this ▸ ht))⟩

/-- **What is written of an entity is what its members own.** -/
theorem mem_triples {e : Entity} {ts : List Triple} (h : e.triples ds = .ok ts) {t : Triple} :
    t ∈ ts ↔ ∃ n ∈ e.family, n.Owns ds t := by
  induction e using Entity.induction generalizing ts with
  | h e ih =>
    rw [mem_triples_iff_children h]
    constructor
    · rintro (ht | ⟨m, hm, us, hus, ht⟩)
      · exact ⟨e, mem_family_self e, ht⟩
      · obtain ⟨n, hn, hown⟩ := (ih m hm hus).1 ht
        exact ⟨n, mem_family_of_mem_children hm hn, hown⟩
    · rintro ⟨n, hn, hown⟩
      rcases mem_family_iff.1 hn with rfl | ⟨m, hm, hnm⟩
      · exact .inl hown
      · obtain ⟨us, hus⟩ := (exists_triples_iff_children.1 ⟨ts, h⟩).2 m hm
        exact .inr ⟨m, hm, us, hus, (ih m hm hus).2 ⟨n, hnm, hown⟩⟩

/-! ## Which objects are written under a subject and a predicate -/

section Objects

variable {x q : Term} {target : List Term}

theorem traces_of_trails {f : Field Entity} {us : List Triple} (h : f.Trails ds us)
    (hchildren : ∀ m, f = .entity m → ∀ vs, m.triples ds = .ok vs → Traces target (objectsIn vs x q)) :
    Traces target (objectsIn us x q) := by
  cases f with
  | literal v =>
    cases h
    exact .nil
  | entity m => exact hchildren m rfl us h

theorem traces_fields_of_ne {y : Term} {p : Property Schema} (hne : ¬(y = x ∧ .iri p.path = q)) :
    ∀ {fs : List (Field Entity)} {tss : List (List Triple)},
      List.Forall₂ (fun f us => fieldTriples ds y p f = .ok us) fs tss →
      (∀ m, .entity m ∈ fs → ∀ vs, m.triples ds = .ok vs → Traces target (objectsIn vs x q)) →
      Traces target (objectsIn tss.flatten x q)
  | _, _, .nil, _ => .nil
  | f :: fs, us :: tss, .cons hf hfs, hchildren => by
    obtain ⟨o, ws, -, hws, rfl⟩ := fieldTriples_eq_ok_iff.1 hf
    rw [List.flatten_cons, objectsIn_append, objectsIn_cons, if_neg hne]
    refine (traces_of_trails hws fun m hm => hchildren m (hm ▸ List.mem_cons_self ..)).append ?_
    exact traces_fields_of_ne hne hfs fun m hm => hchildren m (List.mem_cons_of_mem _ hm)

/-- Under the subject and the predicate itself values add their objects one by one, and what is nested in them after
each. -/
theorem traces_fields_of_eq {p : Property Schema} :
    ∀ {fs : List (Field Entity)} {tss : List (List Triple)} {first rest before : List Term} {k : Nat},
      List.Forall₂ (fun f us => fieldTriples ds x p f = .ok us) fs tss →
      (∀ m, .entity m ∈ fs → ∀ vs, m.triples ds = .ok vs → Traces target (objectsIn vs x (.iri p.path))) →
      List.Forall₂ (fun f o => f.Writes ds p o) fs rest → target = first ++ rest → first.length ≤ k →
      before.eraseDups = (target.take k).eraseDups →
      ∃ k', k ≤ k' ∧ (before ++ objectsIn tss.flatten x (.iri p.path)).eraseDups = (target.take k').eraseDups
  | _, _, first, rest, before, k, .nil, _, _, _, _, h => ⟨k, Nat.le_refl k, by simpa using h⟩
  | f :: fs, us :: tss, first, rest, before, k, .cons hf hfs, hchildren, hwrites, htarget, hk, h => by
    obtain ⟨o, ws, ho, hws, rfl⟩ := fieldTriples_eq_ok_iff.1 hf
    cases hwrites with
    | @cons _ o' _ rest ho' hrest =>
      obtain rfl := ho.unique ho'
      obtain ⟨k₁, hk₁, hfirst, h₁⟩ := Traces.step htarget hk h
      obtain ⟨k₂, hk₂, h₂⟩ := traces_of_trails hws (fun m hm => hchildren m (hm ▸ List.mem_cons_self ..)) _ _ h₁
      have hassoc : target = first ++ [o] ++ rest := by rw [htarget, List.append_assoc, List.singleton_append]
      have hlength : (first ++ [o]).length ≤ k₂ := by
        rw [List.length_append, List.length_singleton]
        omega
      obtain ⟨k₃, hk₃, h₃⟩ := traces_fields_of_eq hfs (fun m hm => hchildren m (List.mem_cons_of_mem _ hm)) hrest
        hassoc hlength h₂
      refine ⟨k₃, by omega, ?_⟩
      rw [List.flatten_cons, objectsIn_append, objectsIn_cons, if_pos ⟨rfl, rfl⟩, ← h₃]
      simp only [List.append_assoc, List.cons_append, List.nil_append]

theorem traces_fieldsTriples {y : Term} {p : Property Schema} {fs : List (Field Entity)} {us : List Triple}
    (h : fieldsTriples ds y p fs = .ok us)
    (htarget : y = x → .iri p.path = q → List.Forall₂ (fun f o => f.Writes ds p o) fs target)
    (hchildren : ∀ m, .entity m ∈ fs → ∀ vs, m.triples ds = .ok vs → Traces target (objectsIn vs x q)) :
    Traces target (objectsIn us x q) := by
  obtain ⟨tss, htss, rfl⟩ := fieldsTriples_eq_ok_iff.1 h
  by_cases hkey : y = x ∧ .iri p.path = q
  · obtain ⟨rfl, rfl⟩ := hkey
    intro before k hk
    exact traces_fields_of_eq htss hchildren (htarget rfl rfl) (List.nil_append _).symm (Nat.zero_le k) hk
  · exact traces_fields_of_ne hkey htss hchildren

/-- **If all that write under a subject and a predicate write one list of objects, what is written there traces it**,
however the entities are nested in each other. -/
theorem traces_triples (hq : q ≠ .iri Rdf.type) {e : Entity} {ts : List Triple} (h : e.triples ds = .ok ts)
    (htarget : ∀ n ∈ e.family, ∀ c ∈ n.cells, n.subject = x → .iri c.1.path = q →
      List.Forall₂ (fun f o => f.Writes ds c.1 o) c.2.values target) : Traces target (objectsIn ts x q) := by
  induction e using Entity.induction generalizing ts with
  | h e ih =>
    obtain ⟨tss, htss, rfl⟩ := triples_eq_ok_iff.1 h
    have hchild : ∀ m ∈ e.children, ∀ vs, m.triples ds = .ok vs → Traces target (objectsIn vs x q) := fun m hm vs hvs =>
      ih m hm hvs fun n hn => htarget n (mem_family_of_mem_children hm hn)
    have hcell : ∀ c ∈ e.cells, ∀ us, fieldsTriples ds e.subject c.1 c.2.values = .ok us →
        Traces target (objectsIn us x q) := fun c hc us hus =>
      traces_fieldsTriples hus (htarget e (mem_family_self e) c hc) fun m hm =>
        hchild m (mem_children.2 ⟨c, hc, hm⟩)
    rw [objectsIn_cons, if_neg fun hkey => hq hkey.2.symm]
    clear h
    generalize e.cells = cs at htss hcell
    induction htss with
    | nil => exact .nil
    | cons hc _ ihcells =>
      rw [List.forall_mem_cons] at hcell
      rw [List.flatten_cons, objectsIn_append]
      exact (hcell.1 _ hc).append (ihcells hcell.2)

/-- **The graph of an entity holds, under a subject and a predicate, what its members write there**, if they all write
the same. -/
theorem objects_ofList_triples (hq : q ≠ .iri Rdf.type) {e n : Entity} {ts : List Triple} (h : e.triples ds = .ok ts)
    (htarget : ∀ n ∈ e.family, ∀ c ∈ n.cells, n.subject = x → .iri c.1.path = q →
      List.Forall₂ (fun f o => f.Writes ds c.1 o) c.2.values target)
    (hn : n ∈ e.family) {c : Property Schema × Slot Entity} (hc : c ∈ n.cells) (hx : n.subject = x)
    (hpath : .iri c.1.path = q) : (Graph.ofList ts).objects x q = target.eraseDups := by
  rw [Graph.objects_ofList]
  refine (traces_triples hq h htarget).eraseDups_eq fun o ho => ?_
  obtain ⟨f, hf, hfo⟩ := exists_left_of_forall₂ (htarget n hn c hc hx hpath) ho
  rw [mem_objectsIn, mem_triples h]
  exact ⟨n, hn, .inr ⟨c, hc, f, hf, o, hfo, by rw [hx, hpath]⟩⟩

end Objects

end Entity
end ShapeBinding
