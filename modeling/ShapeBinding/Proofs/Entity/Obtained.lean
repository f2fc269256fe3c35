import ShapeBinding.Proofs.Bind
/-!
# How entities come about

An entity starts out empty or is bound, and changes when values are set or cleared (`Entity.Obtained`).  Whatever the
steps, it has one slot for each property, every slot has the type of its property's literal values, no slot has more
values than its property allows, and every value is of the property's kind (`Entity.Obtained.aligned`).
-/
namespace ShapeBinding

/-- **The entities that can be had with a table of datatypes.** -/
inductive Entity.Obtained (ds : Datatypes) : Entity → Prop
  | empty (s : Schema) (x : Term) : Obtained ds (.empty ds s x)
  | bound {b : Binder} {g : Graph} {x : Term} {s : Schema} {e : Entity} (hds : b.datatypes = ds)
      (h : b.bindSubject g x s = .ok e) : Obtained ds e
  | set {e e' : Entity} {name : String} {values : List (Field Entity)} (he : Obtained ds e)
      (h : e.set name values = .ok e') : Obtained ds e'
  | clear {e e' : Entity} {name : String} (he : Obtained ds e) (h : e.clear name = .ok e') : Obtained ds e'

/-- A value is a literal under a datatype, or an entity under a nested schema. -/
def Field.OfKind (kind : ValueKind Schema) : Field Entity → Prop
  | .literal _ => ∃ iri, kind = .datatype iri
  | .entity _ => ∃ s, kind = .nested s

/-- A slot belongs to a property: it has the type of the property's literal values, and holds only values of the
property's kind and not too many of them. -/
structure Slot.Aligned (ds : Datatypes) (p : Property Schema) (s : Slot Entity) : Prop where
  valueType_eq : s.valueType = Entity.literalType? ds p
  allows : p.allows s.values.length = true
  fields : ∀ f ∈ s.values, f.OfKind p.kind

theorem Property.allows_zero (p : Property Schema) : p.allows 0 = true := Property.allows_iff.2 fun _ _ => Nat.zero_le _

theorem Field.OfKind.of_fits {kind : ValueKind Schema} {f : Field Entity} (h : f.Fits kind) : f.OfKind kind := by
  cases f with
  | literal v => exact h
  | entity m => exact ⟨m.schema, h.1⟩

namespace Entity

/-- There is one slot for each property, and it belongs to it. -/
def Aligned (ds : Datatypes) (e : Entity) : Prop := List.Forall₂ (Slot.Aligned ds) e.schema.properties e.slots

variable {ds : Datatypes}

/-! ## Each step -/

theorem aligned_empty (s : Schema) (x : Term) : (empty ds s x).Aligned ds := by
  unfold Aligned empty
  rw [List.forall₂_map_right_iff, List.forall₂_same]
  exact fun p _ => ⟨rfl, p.allows_zero, nofun⟩

theorem aligned_of_bindSubject {b : Binder} {g : Graph} {x : Term} {s : Schema} {e : Entity}
    (h : b.bindSubject g x s = .ok e) : e.Aligned b.datatypes := by
  have hself := h
  obtain ⟨rfl, rfl, -⟩ := Binder.bindSubject_eq_ok_iff.1 h
  refine (Binder.fits_of_bindSubject hself e (mem_family_self e)).imp fun p slot hslot => ?_
  exact ⟨hslot.valueType_eq, hslot.allows, fun f hf => .of_fits (hslot.fields f hf)⟩

theorem ofKind_of_checkKind {p : Property Schema} {type : Option ValueType} {f : Field Entity}
    (h : checkKind p type f = .ok ()) : f.OfKind p.kind := by
  unfold checkKind at h
  split at h
  · rename_i iri v hk
    exact ⟨iri, hk⟩
  · rename_i s m hk
    exact ⟨s, hk⟩
  · cases h

/-- Values that suit the first property of a name may be put in its slot. -/
theorem forall₂_replaceValues {R : Property Schema → Slot Entity → Prop} {name : String}
    {values : List (Field Entity)} {ps : List (Property Schema)} {ss : List (Slot Entity)} (h : List.Forall₂ R ps ss)
    (hfirst : ∀ c, (ps.zip ss).find? (·.1.name = name) = some c → R c.1 c.2 → R c.1 ⟨c.2.valueType, values⟩) :
    List.Forall₂ R ps (replaceValues name values ps ss) := by
  induction h with
  | nil => exact .nil
  | @cons p s ps ss hps hrest ih =>
    rw [replaceValues]
    split
    · rename_i hname
      refine .cons (hfirst (p, s) ?_ hps) hrest
      rw [List.zip_cons_cons, List.find?_cons_of_pos (by simpa using hname)]
    · rename_i hname
      refine .cons hps (ih fun c hc => hfirst c ?_)
      rwa [List.zip_cons_cons, List.find?_cons_of_neg (by simpa using hname)]

theorem aligned_replace {e : Entity} (h : e.Aligned ds) {name : String} {values : List (Field Entity)}
    (hvalues : ∀ c, e.lookup? name = some c → c.1.allows values.length = true ∧ ∀ f ∈ values, f.OfKind c.1.kind) :
    (e.replace name values).Aligned ds :=
  forall₂_replaceValues h fun c hc hslot => ⟨hslot.valueType_eq, (hvalues c hc).1, (hvalues c hc).2⟩

theorem lookup_eq_ok_iff {e : Entity} {name : String} {c : Property Schema × Slot Entity} :
    e.lookup name = .ok c ↔ e.lookup? name = some c := by
  unfold lookup
  cases e.lookup? name <;> simp

theorem checkChange_eq_ok_iff {e : Entity} {name : String} {values : List (Field Entity)} :
    e.checkChange name values = .ok () ↔ ∃ c, e.lookup? name = some c ∧
      (∀ f ∈ values, checkKind c.1 c.2.valueType f = .ok ()) ∧ c.1.allows values.length = true := by
  unfold checkChange
  simp only [bind_eq_ok_iff, lookup_eq_ok_iff]
  refine exists_congr fun c => and_congr_right fun _ => ?_
  constructor
  · rintro ⟨_, hkinds, hcount⟩
    exact ⟨forM_eq_ok_iff.1 hkinds, Property.checkCount_eq_ok_iff.1 hcount⟩
  · rintro ⟨hkinds, hcount⟩
    exact ⟨_, forM_eq_ok_iff.2 hkinds, Property.checkCount_eq_ok_iff.2 hcount⟩

/-- **What an accepted change checked**: each value's kind, and how many they are. -/
theorem set_eq_ok_iff {e e' : Entity} {name : String} {values : List (Field Entity)} : e.set name values = .ok e' ↔
    ∃ c, e.lookup? name = some c ∧ (∀ f ∈ values, checkKind c.1 c.2.valueType f = .ok ()) ∧
      c.1.allows values.length = true ∧ e' = e.replace name values := by
  rw [set, setCall, Call.result_checkThen, bind_eq_ok_iff]
  constructor
  · rintro ⟨_, hcheck, ⟨⟩⟩
    obtain ⟨c, hc, hkinds, hcount⟩ := checkChange_eq_ok_iff.1 hcheck
    exact ⟨c, hc, hkinds, hcount, rfl⟩
  · rintro ⟨c, hc, hkinds, hcount, rfl⟩
    exact ⟨(), checkChange_eq_ok_iff.2 ⟨c, hc, hkinds, hcount⟩, rfl⟩

theorem clear_eq_ok_iff {e e' : Entity} {name : String} :
    e.clear name = .ok e' ↔ (∃ c, e.lookup? name = some c) ∧ e' = e.replace name [] := by
  rw [clear, clearCall, Call.result_checkThen]
  simp only [bind_eq_ok_iff, lookup_eq_ok_iff]
  constructor
  · rintro ⟨c, hc, ⟨⟩⟩
    exact ⟨⟨c, hc⟩, rfl⟩
  · rintro ⟨⟨c, hc⟩, rfl⟩
    exact ⟨c, hc, rfl⟩

/-! ## Every run of steps -/

/-- **However an entity came about, its slots belong to its properties.** -/
theorem Obtained.aligned {e : Entity} (h : e.Obtained ds) : e.Aligned ds := by
  induction h with
  | empty s x => exact aligned_empty s x
  | bound hds h => exact hds ▸ aligned_of_bindSubject h
  | set _ h ih =>
    obtain ⟨c, hc, hkinds, hcount, rfl⟩ := set_eq_ok_iff.1 h
    refine aligned_replace ih fun d hd => ?_
    rw [hc] at hd
    cases hd
    exact ⟨hcount, fun f hf => ofKind_of_checkKind (hkinds f hf)⟩
  | clear _ h ih =>
    obtain ⟨-, rfl⟩ := clear_eq_ok_iff.1 h
    exact aligned_replace ih fun d _ => ⟨d.1.allows_zero, nofun⟩

/-- Entities fit their schemas if each nested one has the very schema that its property names and a node as its
subject. -/
theorem fits_of_obtained {e : Entity} (h : ∀ n ∈ e.family, n.Obtained ds) (hnested : ∀ n ∈ e.family, ∀ c ∈ n.cells,
    ∀ m, .entity m ∈ c.2.values → c.1.kind = .nested m.schema ∧ m.subject.isNode = true) : e.Fits ds := by
  intro n hn
  obtain ⟨hlength, haligned⟩ := List.forall₂_iff_zip.1 (h n hn).aligned
  refine List.forall₂_iff_zip.2 ⟨hlength, fun {p slot} hc => ?_⟩
  have hslot := haligned hc
  refine ⟨hslot.valueType_eq, hslot.allows, fun f hf => ?_⟩
  cases f with
  | literal v => exact hslot.fields _ hf
  | entity m => exact hnested n hn _ hc m hf

end Entity
end ShapeBinding
