import ShapeBinding.Proofs.Datatype.Builtin
import ShapeBinding.Proofs.Entity.Checked
/-!
# What holds of every entity that is edited

Two paths lead into a slot: binding converts objects and counts them afterwards, and `Entity.set` checks values against
the type that the slot remembers before it counts.  Both let in only what suits the property (`Slot.Sound`), if the
converters keep to their types.  An edit changes one slot, or nothing if it is refused; hence whatever the edits, all
slots of an entity and of those nested in it stay sound, and a single-valued property is read as just the value that it
has (`Entity.sound_editAll`).
-/
namespace ShapeBinding

/-! ## Sound slots -/

/-- **A value suits a property**: a literal is of the type of the declared datatype, and an entity is over a schema of
the nested one's name. -/
def Field.Suits (ds : Datatypes) (p : Property Schema) : Field Entity → Prop
  | .literal v => ∃ iri, p.kind = .datatype iri ∧ ds.valueType? iri = some v.type
  | .entity m => ∃ s, p.kind = .nested s ∧ m.schema.name = s.name

/-- **A slot is sound** for a property: it has not too many values, and they all suit it. -/
structure Slot.Sound (ds : Datatypes) (p : Property Schema) (s : Slot Entity) : Prop where
  count_le : ∀ max, p.maxCount = some max → s.values.length ≤ max.toNat
  suits : ∀ f ∈ s.values, f.Suits ds p

namespace Entity

/-- Every slot is sound for its property. -/
def Sound (ds : Datatypes) (e : Entity) : Prop := List.Forall₂ (Slot.Sound ds) e.schema.properties e.slots

variable {ds : Datatypes} {e : Entity} {name : String}

/-- **Binding converts an object to what suits the property**, as the converters keep to their types. -/
theorem suits_of_bindObject {b : Binder} {g : Graph} {p : Property Schema} {o : Term} {f : Field Entity}
    (hds : b.datatypes.Typed) (h : b.bindObject g p.name o p.kind = .ok f) : f.Suits b.datatypes p := by
  cases hk : p.kind with
  | datatype iri =>
    rw [hk, Binder.bindObject_datatype_eq_ok_iff] at h
    obtain ⟨v, hv, rfl⟩ := h
    obtain ⟨l, -, -, hdecode⟩ := Binder.bindLiteral_eq_ok_iff.1 hv
    exact ⟨iri, hk, Datatypes.valueType?_of_decode hds hdecode⟩
  | nested s =>
    rw [hk, Binder.bindObject_nested_eq_ok_iff] at h
    obtain ⟨-, m, hm, rfl⟩ := h
    exact ⟨s, hk, by rw [(Binder.bindSubject_eq_ok_iff.1 hm).1]⟩

theorem matches_iff_suits {p : Property Schema} {f : Field Entity} :
    f.Matches p (literalType? ds p) ↔ f.Suits ds p := by
  cases f with
  | literal v =>
    refine exists_congr fun iri => and_congr_right fun hk => ?_
    simp [literalType?, Property.datatype?, hk]
  | entity m => rfl

/-- **A checked value suits the property**, if the slot remembers the right type. -/
theorem checkKind_eq_ok_iff {p : Property Schema} {f : Field Entity} :
    checkKind p (literalType? ds p) f = .ok () ↔ f.Suits ds p :=
  checkKind_eq_ok_iff_matches.trans matches_iff_suits

theorem sound_empty (s : Schema) (x : Term) : (empty ds s x).Sound ds := by
  unfold Sound empty
  rw [List.forall₂_map_right_iff, List.forall₂_same]
  exact fun p _ => ⟨fun _ _ => Nat.zero_le _, nofun⟩

/-- **Binding counts what it has converted**, and so leaves sound slots. -/
theorem sound_of_bindSubject {b : Binder} {g : Graph} {x : Term} {s : Schema} (hds : b.datatypes.Typed)
    (h : b.bindSubject g x s = .ok e) : e.Sound b.datatypes := by
  obtain ⟨rfl, -, hslots⟩ := Binder.bindSubject_eq_ok_iff.1 h
  refine hslots.imp fun p slot hslot => ?_
  obtain ⟨-, hcount, hvalues⟩ := Binder.bindProperty_eq_ok_iff.1 hslot
  refine ⟨Property.allows_iff.1 hcount, fun f hf => ?_⟩
  obtain ⟨o, -, ho⟩ := exists_left_of_forall₂ hvalues hf
  exact suits_of_bindObject hds ho

theorem sound_replace (h : e.Sound ds) {values : List (Field Entity)} (hvalues : ∀ c, e.lookup? name = some c →
    c.1.allows values.length = true ∧ ∀ f ∈ values, f.Suits ds c.1) : (e.replace name values).Sound ds :=
  forall₂_replaceValues h fun c hc _ => ⟨Property.allows_iff.1 (hvalues c hc).1, (hvalues c hc).2⟩

/-- **However an entity came about, its slots are sound.** -/
theorem Obtained.sound (hds : ds.Typed) (h : e.Obtained ds) : e.Sound ds := by
  induction h with
  | empty s x => exact sound_empty s x
  | bound hb h =>
    subst hb
    exact sound_of_bindSubject hds h
  | set he h ih =>
    obtain ⟨c, hc, hkinds, hcount, rfl⟩ := set_eq_ok_iff.1 h
    -- the type that was checked is the datatype's, since the slot has kept it from the start
    have htype : c.2.valueType = literalType? ds c.1 :=
      ((List.forall₂_iff_zip.1 he.aligned).2 (List.mem_of_find?_eq_some hc)).valueType_eq
    refine sound_replace ih fun d hd => ?_
    rw [hc] at hd
    cases hd
    rw [htype] at hkinds
    exact ⟨hcount, fun f hf => checkKind_eq_ok_iff.1 (hkinds f hf)⟩
  | clear _ h ih =>
    obtain ⟨-, rfl⟩ := clear_eq_ok_iff.1 h
    exact sound_replace ih fun d _ => ⟨d.1.allows_zero, nofun⟩

/-! ## Edits -/

/-- A change that is asked of an entity. -/
inductive Edit where
  | set (name : String) (values : List (Field Entity))
  | clear (name : String)

/-- The entities that an edit wants to nest. -/
def Edit.entities : Edit → List Entity
  | .set _ values => values.filterMap Field.entity?
  | .clear _ => []

def Edit.call : Edit → Call Entity BindError Unit
  | .set name values => setCall name values
  | .clear name => clearCall name

def apply (e : Entity) (x : Edit) : Except BindError Entity := x.call.result e

/-- The entity after an edit, be it accepted or refused. -/
def edit (e : Entity) (x : Edit) : Entity := x.call.after e

theorem apply_set (e : Entity) (name : String) (values : List (Field Entity)) :
    e.apply (.set name values) = e.set name values := rfl

theorem apply_clear (e : Entity) (name : String) : e.apply (.clear name) = e.clear name := rfl

/-- **A refused edit changes nothing**, as an edit checks everything before it writes. -/
theorem Edit.atomic_call (x : Edit) : x.call.Atomic := by
  cases x with
  | set name values => exact Call.atomic_checkThen _ _
  | clear name => exact Call.atomic_checkThen _ _

theorem edit_of_ok {e' : Entity} {x : Edit} (h : e.apply x = .ok e') : e.edit x = e' := Call.after_of_result_eq_ok h

theorem edit_of_error {x : Edit} {err : BindError} (h : e.apply x = .error err) : e.edit x = e :=
  x.atomic_call.after_of_result_eq_error h

def editAll (e : Entity) (xs : List Edit) : Entity := xs.foldl edit e

/-- **The entities that a program can make with a table of datatypes**: empty and bound ones, and what becomes of them
by edits that nest such entities only. -/
inductive Made (ds : Datatypes) : Entity → Prop
  | empty (s : Schema) (x : Term) : Made ds (.empty ds s x)
  | bound {b : Binder} {g : Graph} {e : Entity} (hds : b.datatypes = ds) (h : b.Yields g e) : Made ds e
  | edited {e : Entity} {x : Edit} (he : Made ds e) (hx : ∀ m ∈ x.entities, Made ds m) : Made ds (e.edit x)

theorem Made.editAll {xs : List Edit} (he : e.Made ds) (hxs : ∀ x ∈ xs, ∀ m ∈ x.entities, m.Made ds) :
    (e.editAll xs).Made ds := by
  induction xs generalizing e with
  | nil => exact he
  | cons x xs ih =>
    rw [List.forall_mem_cons] at hxs
    exact ih (he.edited hxs.1) hxs.2

theorem children_empty (s : Schema) (x : Term) : (empty ds s x).children = [] := by
  refine List.eq_nil_iff_forall_not_mem.2 fun m hm => ?_
  obtain ⟨c, hc, hm⟩ := mem_children.1 hm
  obtain ⟨p, -, hslot⟩ := List.mem_map.1 (List.of_mem_zip hc).2
  simp [← hslot] at hm

theorem mem_zip_replaceValues {values : List (Field Entity)} {c : Property Schema × Slot Entity} :
    ∀ {ps : List (Property Schema)} {ss : List (Slot Entity)}, c ∈ ps.zip (replaceValues name values ps ss) →
      c ∈ ps.zip ss ∨ c.2.values = values
  | [], _, h => by simp at h
  | _ :: _, [], h => by simp [replaceValues] at h
  | p :: ps, s :: ss, h => by
    rw [replaceValues] at h
    split at h
    · rcases List.mem_cons.1 h with rfl | h
      · exact .inr rfl
      · exact .inl (List.mem_cons_of_mem _ h)
    · rcases List.mem_cons.1 h with rfl | h
      · exact .inl (List.mem_cons_self ..)
      · exact (mem_zip_replaceValues h).imp_left (List.mem_cons_of_mem _)

theorem mem_children_replace {values : List (Field Entity)} {m : Entity}
    (h : m ∈ (e.replace name values).children) : m ∈ e.children ∨ .entity m ∈ values := by
  obtain ⟨c, hc, hm⟩ := mem_children.1 h
  rcases mem_zip_replaceValues hc with hc | hvalues
  · exact .inl (mem_children.2 ⟨c, hc, hm⟩)
  · exact .inr (hvalues ▸ hm)

/-- **What an edit does**: nothing, or one accepted step that nests nothing but what it was given. -/
theorem edit_cases (ds : Datatypes) (e : Entity) (x : Edit) : e.edit x = e ∨
    (e.Obtained ds → (e.edit x).Obtained ds) ∧ ∀ m ∈ (e.edit x).children, m ∈ e.children ∨ m ∈ x.entities := by
  cases h : e.apply x with
  | error err => exact .inl (edit_of_error h)
  | ok e' =>
    rw [edit_of_ok h]
    refine .inr ?_
    cases x with
    | set name values =>
      refine ⟨fun he => he.set h, fun m hm => ?_⟩
      obtain ⟨_, _, _, _, rfl⟩ := set_eq_ok_iff.1 h
      refine (mem_children_replace hm).imp_right fun hm => ?_
      exact List.mem_filterMap.2 ⟨_, hm, rfl⟩
    | clear name =>
      refine ⟨fun he => he.clear h, fun m hm => ?_⟩
      obtain ⟨_, rfl⟩ := clear_eq_ok_iff.1 h
      exact (mem_children_replace hm).imp_right nofun

/-- **Every member of a made entity's family came about by accepted steps.** -/
theorem Made.obtained (h : e.Made ds) : ∀ n ∈ e.family, n.Obtained ds := by
  induction h with
  | empty s x =>
    intro n hn
    rcases mem_family_iff.1 hn with rfl | ⟨m, hm, -⟩
    · exact .empty s x
    · simp [children_empty] at hm
  | bound hb h => exact fun n hn => .bound hb (Binder.bindSubject_of_mem_family (Binder.bindSubject_of_yields h) hn)
  | @edited e x _ _ ih ihx =>
    rcases edit_cases ds e x with heq | ⟨hobtained, hchildren⟩
    · rw [heq]
      exact ih
    · intro n hn
      rcases mem_family_iff.1 hn with rfl | ⟨m, hm, hn⟩
      · exact hobtained (ih e e.mem_family_self)
      · rcases hchildren m hm with hm | hm
        · exact ih n (mem_family_of_mem_children hm hn)
        · exact ihx m hm n hn

/-! ## Reading a single value -/

/-- **A property is read as the value it has**: each reader gives a value just when it is the only one there. -/
structure ReadsSingle (e : Entity) (name : String) : Prop where
  string?_iff : ∀ t, e.string? name = some t ↔ e.get name = .ok [.literal (.string t)]
  integer?_iff : ∀ n, e.integer? name = some n ↔ e.get name = .ok [.literal (.integer n)]
  boolean?_iff : ∀ t, e.boolean? name = some t ↔ e.get name = .ok [.literal (.boolean t)]
  nested?_iff : ∀ m, e.nested? name = some m ↔ e.get name = .ok [.entity m]

theorem exists_find?_zip {R : Property Schema → Slot Entity → Prop} {p : Property Schema} :
    ∀ {ps : List (Property Schema)} {ss : List (Slot Entity)}, List.Forall₂ R ps ss →
      ps.find? (·.name = name) = some p → ∃ slot, (ps.zip ss).find? (·.1.name = name) = some (p, slot) ∧ R p slot
  | [], _, _, hp => by simp at hp
  | q :: ps, slot :: ss, .cons hq h, hp => by
    by_cases hname : q.name = name
    · obtain rfl : q = p := by simpa [hname] using hp
      exact ⟨slot, by simp [hname], hq⟩
    · simpa [hname] using exists_find?_zip h (by simpa [hname] using hp)

theorem single?_eq_some_iff (h : e.Sound ds) {p : Property Schema} (hp : e.schema.property? name = some p)
    (hmax : p.maxCount = some 1) (f : Field Entity) : e.single? name = some f ↔ e.get name = .ok [f] := by
  obtain ⟨slot, hlookup, hslot⟩ : ∃ slot, e.lookup? name = some (p, slot) ∧ slot.Sound ds p := exists_find?_zip h hp
  have hget : e.get name = .ok slot.values := by simp [get, lookup, hlookup, bind, Except.bind]
  have hsingle : e.single? name = slot.values.head? := by
    simp [single?, single, lookup, hlookup, Property.isSingle, hmax, bind, Except.bind]
  have hlength : slot.values.length ≤ 1 := hslot.count_le 1 hmax
  rw [hget, hsingle]
  cases hvalues : slot.values with
  | nil => simp
  | cons v vs =>
    obtain rfl : vs = [] := by simpa [hvalues] using hlength
    simp

theorem literal?_bind_eq_some_iff {α : Type} {read : Value → Option α} {write : α → Value}
    (hread : ∀ v a, read v = some a ↔ v = write a) (a : α) :
    (e.literal? name).bind read = some a ↔ e.single? name = some (.literal (write a)) := by
  unfold literal?
  cases e.single? name with
  | none => simp
  | some f => cases f <;> simp [Field.literal?, hread]

theorem readsSingle_of_sound (h : e.Sound ds) {p : Property Schema} (hp : e.schema.property? name = some p)
    (hmax : p.maxCount = some 1) : e.ReadsSingle name := by
  have hsingle := single?_eq_some_iff h hp hmax
  constructor
  · intro t
    rw [← hsingle]
    exact literal?_bind_eq_some_iff (fun v a => by cases v <;> simp [Value.string?]) t
  · intro n
    rw [← hsingle]
    exact literal?_bind_eq_some_iff (fun v a => by cases v <;> simp [Value.integer?]) n
  · intro t
    rw [← hsingle]
    exact literal?_bind_eq_some_iff (fun v a => by cases v <;> simp [Value.boolean?]) t
  · intro m
    rw [← hsingle, nested?]
    cases e.single? name with
    | none => simp
    | some f => cases f <;> simp [Field.entity?]

/-- **Whatever is done to an entity, all slots stay sound**, its own and those of the entities nested in it, and a
single-valued property is read as the value it has. -/
theorem sound_editAll (hds : ds.Typed) (he : e.Made ds) {xs : List Edit}
    (hxs : ∀ x ∈ xs, ∀ m ∈ x.entities, m.Made ds) : ∀ n ∈ (e.editAll xs).family,
      n.Sound ds ∧ ∀ name p, n.schema.property? name = some p → p.maxCount = some 1 → n.ReadsSingle name := by
  intro n hn
  have hsound : n.Sound ds := ((he.editAll hxs).obtained n hn).sound hds
  exact ⟨hsound, fun name p hp hmax => readsSingle_of_sound hsound hp hmax⟩

end Entity

/-! ## A parcel with a label -/

namespace Example

def labelSchema : Schema :=
  ⟨"Label", "http://example.org/Label", none, .iri "http://example.org/LabelShape",
    [⟨"text", "http://example.org/text", .datatype Xsd.string, some 1, [], none, none⟩]⟩

def parcelSchema : Schema :=
  ⟨"Parcel", "http://example.org/Parcel", none, .iri "http://example.org/ParcelShape",
    [⟨"weight", "http://example.org/weight", .datatype Xsd.integer, some 1, [], none, none⟩,
      ⟨"label", "http://example.org/label", .nested labelSchema, some 1, [], none, none⟩]⟩

def parcel : Entity := .empty .builtin parcelSchema (.iri "http://example.org/parcel")

def label : Entity := (Entity.empty .builtin labelSchema (.blank "l")).edit (.set "text" [.literal (.string "fragile")])

/-- The second and the last edit are refused: two weights are too many, and a parcel has no colour. -/
def parcelEdits : List Entity.Edit :=
  [.set "weight" [.literal (.integer 3)], .set "weight" [.literal (.integer 4), .literal (.integer 5)],
    .set "label" [.entity label], .clear "colour"]

theorem made_parcelEdits : ∀ x ∈ parcelEdits, ∀ m ∈ x.entities, m.Made .builtin := by
  intro x hx m hm
  have hlabel : label.Made .builtin := (Entity.Made.empty labelSchema (.blank "l")).edited nofun
  simp only [parcelEdits, List.mem_cons, List.not_mem_nil, or_false] at hx
  rcases hx with rfl | rfl | rfl | rfl <;> simp [Entity.Edit.entities, Field.entity?] at hm
  exact hm ▸ hlabel

end Example

open Example in
/-- The parcel holds the first weight and the label at last, and reads them. -/
theorem Entity.sound_editAll_parcel : Datatypes.builtin.Typed ∧ parcel.Made .builtin ∧
    (∀ x ∈ parcelEdits, ∀ m ∈ x.entities, m.Made .builtin) ∧
    (parcel.editAll parcelEdits).integer? "weight" = some 3 ∧
    ∀ n ∈ (parcel.editAll parcelEdits).family, n.Sound .builtin ∧
      ∀ name p, n.schema.property? name = some p → p.maxCount = some 1 → n.ReadsSingle name :=
  ⟨Datatypes.typed_builtin, .empty _ _, made_parcelEdits, by decide +kernel,
    sound_editAll Datatypes.typed_builtin (.empty _ _) made_parcelEdits⟩

end ShapeBinding
