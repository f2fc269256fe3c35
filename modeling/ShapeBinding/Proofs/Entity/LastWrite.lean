import ShapeBinding.Proofs.Catalog
import ShapeBinding.Proofs.Entity.Edited
/-!
# The last write wins

Whether an edit is accepted, and what is told of it otherwise, depends on the schema of the entity and on the types that
its slots keep (`Edit.Permitted`, `Edit.Refused`).  No edit changes these (`SameFrame`), so an edit fares the same at
any time of a run.  After a run, each property holds what the last accepted edit on its name wrote there, or what it held
before (`get_editAll`).  As the frame and the values under each name make up an entity (`eq_of_get`), refused edits may
be left out of a run, and edits on different names may change places (`Entity.last_edit_wins`).
-/
namespace ShapeBinding
namespace Entity

/-! ## Edits that are permitted -/

/-- The name that an edit is about. -/
def Edit.name : Edit → String
  | .set name _ => name
  | .clear name => name

/-- The values that an edit leaves under its name. -/
def Edit.values : Edit → List (Field Entity)
  | .set _ values => values
  | .clear _ => []

/-- The properties of an entity, each with the type that its slot keeps. -/
def kinds (e : Entity) : List (Property Schema × Option ValueType) :=
  e.schema.properties.zip (e.slots.map (·.valueType))

/-- **An edit is permitted**: its name is a property's, and the values to be set match and are not too many. -/
def Edit.Permitted (kinds : List (Property Schema × Option ValueType)) : Edit → Prop
  | .set name values => ∃ c ∈ kinds, c.1.name = name ∧ (∀ f ∈ values, f.Matches c.1 c.2) ∧
      ∀ max, c.1.maxCount = some max → values.length ≤ max.toNat
  | .clear name => ∃ c ∈ kinds, c.1.name = name

/-- **Why an edit is refused**: no property has the name, or a value does not match, the first such value being told of,
or the values match but are too many. -/
inductive Edit.Refused (schema : String) (kinds : List (Property Schema × Option ValueType)) : Edit → BindError → Prop
  | unknown {x : Edit} (h : ∀ c ∈ kinds, c.1.name ≠ x.name) : Refused schema kinds x (.unknownProperty schema x.name)
  | value {name : String} {values : List (Field Entity)} {c : Property Schema × Option ValueType} {err : BindError}
      (hc : c ∈ kinds) (hname : c.1.name = name)
      (h : FirstFails (fun f => f.Matches c.1 c.2) (fun f => f.Clashes c.1 c.2 err) values) :
      Refused schema kinds (.set name values) err
  | count {name : String} {values : List (Field Entity)} {c : Property Schema × Option ValueType} {max : UInt32}
      (hc : c ∈ kinds) (hname : c.1.name = name) (hall : ∀ f ∈ values, f.Matches c.1 c.2)
      (hmax : c.1.maxCount = some max) (hlt : max.toNat < values.length) :
      Refused schema kinds (.set name values) (.tooManyValues schema name max values.length)

variable {e e' : Entity} {name : String} {x : Edit} {xs ys : List Edit} {err : BindError}

/-- **An entity is regular** if it has a slot for each property and no two properties have one name. -/
structure Regular (e : Entity) : Prop where
  length_eq : e.slots.length = e.schema.properties.length
  names_nodup : (e.schema.properties.map (·.name)).Nodup

/-- However an entity came about, it has a slot for each property. -/
theorem Obtained.regular {ds : Datatypes} (h : e.Obtained ds) (hnames : (e.schema.properties.map (·.name)).Nodup) :
    e.Regular :=
  ⟨h.aligned.length_eq.symm, hnames⟩

theorem kinds_eq_map_cells (e : Entity) : e.kinds = e.cells.map fun c => (c.1, c.2.valueType) := by
  rw [kinds, cells, List.zip_map_right]
  rfl

theorem Regular.lookup?_eq_some_iff (h : e.Regular) {c : Property Schema × Slot Entity} :
    e.lookup? name = some c ↔ c ∈ e.cells ∧ c.1.name = name := by
  have hcells : e.cells.map (·.1.name) = e.schema.properties.map (·.name) := by
    conv_rhs => rw [← List.map_fst_zip (Nat.le_of_eq h.length_eq.symm), List.map_map]
    rfl
  exact find?_key_eq_some_iff (hcells ▸ h.names_nodup)

/-- What is found under a name is the property of the name, with the type that its slot keeps. -/
theorem Regular.exists_lookup?_iff (h : e.Regular) (name : String) {P : Property Schema × Option ValueType → Prop} :
    (∃ c, e.lookup? name = some c ∧ P (c.1, c.2.valueType)) ↔ ∃ c ∈ e.kinds, c.1.name = name ∧ P c := by
  simp only [h.lookup?_eq_some_iff, kinds_eq_map_cells, List.mem_map]
  constructor
  · rintro ⟨c, ⟨hc, hname⟩, hP⟩
    exact ⟨_, ⟨c, hc, rfl⟩, hname, hP⟩
  · rintro ⟨_, ⟨c, hc, rfl⟩, hname, hP⟩
    exact ⟨c, ⟨hc, hname⟩, hP⟩

theorem Regular.lookup?_eq_none_iff (h : e.Regular) : e.lookup? name = none ↔ ∀ c ∈ e.kinds, c.1.name ≠ name := by
  have hfound := not_congr (h.exists_lookup?_iff name (P := fun _ => True))
  simpa [← Option.ne_none_iff_exists'] using hfound

/-- **What an edit does that is accepted**: it was permitted, and it writes its values under its name. -/
theorem Regular.apply_eq_ok_iff (h : e.Regular) :
    e.apply x = .ok e' ↔ x.Permitted e.kinds ∧ e' = e.replace x.name x.values := by
  cases x with
  | set name values =>
    have hfound := h.exists_lookup?_iff name (P := fun c => (∀ f ∈ values, f.Matches c.1 c.2) ∧
      ∀ max, c.1.maxCount = some max → values.length ≤ max.toNat)
    rw [Edit.Permitted, ← hfound]
    simp only [apply_set, set_eq_ok_iff, checkKind_eq_ok_iff_matches, Property.allows_iff, Edit.name, Edit.values]
    constructor
    · rintro ⟨c, hc, hmatch, hcount, rfl⟩
      exact ⟨⟨c, hc, hmatch, hcount⟩, rfl⟩
    · rintro ⟨⟨c, hc, hmatch, hcount⟩, rfl⟩
      exact ⟨c, hc, hmatch, hcount, rfl⟩
  | clear name =>
    have hfound := h.exists_lookup?_iff name (P := fun _ => True)
    simp only [and_true] at hfound
    rw [Edit.Permitted, ← hfound]
    exact clear_eq_ok_iff

/-- **What is told of an edit that is not accepted.** -/
theorem Regular.apply_eq_error_iff (h : e.Regular) :
    e.apply x = .error err ↔ x.Refused e.schema.name e.kinds err := by
  cases x with
  | set name values =>
    have hfound := h.exists_lookup?_iff name (P := fun c =>
      FirstFails (fun f => f.Matches c.1 c.2) (fun f => f.Clashes c.1 c.2 err) values ∨
        (∀ f ∈ values, f.Matches c.1 c.2) ∧ ∃ max, c.1.maxCount = some max ∧ max.toNat < values.length ∧
          err = .tooManyValues e.schema.name c.1.name max values.length)
    rw [apply_set, set_eq_error_iff, hfound, h.lookup?_eq_none_iff]
    constructor
    · rintro (⟨hunknown, rfl⟩ | ⟨c, hc, rfl, hfirst | ⟨hall, max, hmax, hlt, rfl⟩⟩)
      · exact .unknown hunknown
      · exact .value hc rfl hfirst
      · exact .count hc rfl hall hmax hlt
    · intro hrefused
      cases hrefused with
      | unknown hunknown => exact .inl ⟨hunknown, rfl⟩
      | value hc hname hfirst => exact .inr ⟨_, hc, hname, .inl hfirst⟩
      | count hc hname hall hmax hlt => exact .inr ⟨_, hc, hname, .inr ⟨hall, _, hmax, hlt, hname ▸ rfl⟩⟩
  | clear name =>
    rw [apply_clear, clear_eq_error_iff, h.lookup?_eq_none_iff]
    constructor
    · rintro ⟨hunknown, rfl⟩
      exact .unknown hunknown
    · intro hrefused
      cases hrefused with
      | unknown hunknown => exact ⟨hunknown, rfl⟩

/-! ## What no edit changes -/

/-- **Two entities have one frame** if they differ at most in the values of their slots. -/
structure SameFrame (e e' : Entity) : Prop where
  schema_eq : e'.schema = e.schema
  subject_eq : e'.subject = e.subject
  types_eq : e'.slots.map (·.valueType) = e.slots.map (·.valueType)

theorem SameFrame.refl (e : Entity) : e.SameFrame e := ⟨rfl, rfl, rfl⟩

theorem SameFrame.kinds_eq (h : e.SameFrame e') : e'.kinds = e.kinds := by
  rw [kinds, kinds, h.schema_eq, h.types_eq]

theorem SameFrame.length_eq (h : e.SameFrame e') : e'.slots.length = e.slots.length := by
  simpa using congrArg List.length h.types_eq

theorem Regular.of_sameFrame (h : e.Regular) (hframe : e.SameFrame e') : e'.Regular := by
  constructor
  · rw [hframe.length_eq, hframe.schema_eq]
    exact h.length_eq
  · rw [hframe.schema_eq]
    exact h.names_nodup

theorem map_valueType_replaceValues (name : String) (values : List (Field Entity)) :
    ∀ (ps : List (Property Schema)) (ss : List (Slot Entity)),
      (replaceValues name values ps ss).map (·.valueType) = ss.map (·.valueType)
  | [], _ => rfl
  | _ :: _, [] => rfl
  | p :: ps, s :: ss => by
    rw [replaceValues]
    by_cases hname : p.name = name
    · rw [if_pos hname, List.map_cons, List.map_cons]
    · rw [if_neg hname, List.map_cons, List.map_cons, map_valueType_replaceValues name values ps ss]

theorem sameFrame_replace (e : Entity) (name : String) (values : List (Field Entity)) :
    e.SameFrame (e.replace name values) :=
  ⟨rfl, rfl, map_valueType_replaceValues name values e.schema.properties e.slots⟩

/-- **An accepted edit replaces the values under a name that it found.** -/
theorem eq_replace_of_apply (h : e.apply x = .ok e') :
    (∃ c, e.lookup? x.name = some c) ∧ e' = e.replace x.name x.values := by
  cases x with
  | set name values =>
    obtain ⟨c, hc, -, -, rfl⟩ := set_eq_ok_iff.1 h
    exact ⟨⟨c, hc⟩, rfl⟩
  | clear name => exact clear_eq_ok_iff.1 h

theorem sameFrame_edit (e : Entity) (x : Edit) : e.SameFrame (e.edit x) := by
  cases h : e.apply x with
  | error err =>
    rw [edit_of_error h]
    exact .refl e
  | ok e' =>
    rw [edit_of_ok h, (eq_replace_of_apply h).2]
    exact sameFrame_replace ..

/-- **A run of edits keeps the frame.** -/
theorem sameFrame_editAll (e : Entity) (xs : List Edit) : e.SameFrame (e.editAll xs) := by
  induction xs generalizing e with
  | nil => exact .refl e
  | cons x xs ih =>
    have hx := sameFrame_edit e x
    have hxs : (e.edit x).SameFrame (e.editAll (x :: xs)) := ih (e.edit x)
    exact ⟨hxs.schema_eq.trans hx.schema_eq, hxs.subject_eq.trans hx.subject_eq, hxs.types_eq.trans hx.types_eq⟩

/-! ## What is written -/

/-- The edits of a run that are accepted, each by the entity as it is then. -/
def accepted (e : Entity) : List Edit → List Edit
  | [] => []
  | x :: xs =>
    match e.apply x with
    | .ok e' => x :: e'.accepted xs
    | .error _ => e.accepted xs

/-- The values that the last of some edits on a name writes there. -/
def lastValues? (name : String) (xs : List Edit) : Option (List (Field Entity)) :=
  ((xs.filter (·.name = name)).getLast?).map Edit.values

theorem lastValues?_cons (name : String) (x : Edit) (xs : List Edit) : lastValues? name (x :: xs) =
    (lastValues? name xs).or (if x.name = name then some x.values else none) := by
  unfold lastValues?
  by_cases hname : x.name = name
  · rw [List.filter_cons_of_pos (by simpa using hname), List.getLast?_cons, if_pos hname]
    cases (xs.filter (·.name = name)).getLast? <;> rfl
  · rw [List.filter_cons_of_neg (by simpa using hname), if_neg hname, Option.or_none]

theorem get_of_lookup? {c : Property Schema × Slot Entity} (h : e.lookup? name = some c) :
    e.get name = .ok c.2.values := by
  rw [get, lookup, h]
  rfl

theorem get_of_lookup?_eq_none (h : e.lookup? name = none) :
    e.get name = .error (.unknownProperty e.schema.name name) := by
  rw [get, lookup, h]
  rfl

/-- **An accepted edit is seen under its own name only.** -/
theorem get_of_apply (h : e.apply x = .ok e') (name : String) :
    e'.get name = if x.name = name then .ok x.values else e.get name := by
  obtain ⟨⟨d, hd⟩, rfl⟩ := eq_replace_of_apply h
  have hlookup := lookup?_replace e x.name name x.values
  by_cases hname : x.name = name
  · subst hname
    rw [hd] at hlookup
    rw [if_pos rfl, get_of_lookup? hlookup]
    simp
  · rw [if_neg hname]
    cases hc : e.lookup? name with
    | none =>
      rw [hc] at hlookup
      rw [get_of_lookup?_eq_none hlookup, get_of_lookup?_eq_none hc, schema_replace]
    | some c =>
      rw [hc] at hlookup
      rw [get_of_lookup? hlookup, get_of_lookup? hc]
      simp [Ne.symm hname]

/-- **After a run, a property holds what the last accepted edit on its name wrote there**, or what it held before. -/
theorem get_editAll (e : Entity) (xs : List Edit) (name : String) : (e.editAll xs).get name =
    match lastValues? name (e.accepted xs) with
    | some values => .ok values
    | none => e.get name := by
  induction xs generalizing e with
  | nil => rfl
  | cons x xs ih =>
    have hrun : e.editAll (x :: xs) = (e.edit x).editAll xs := rfl
    rw [hrun, ih, accepted]
    cases h : e.apply x with
    | error err => rw [edit_of_error h]
    | ok e' =>
      rw [edit_of_ok h, get_of_apply h, lastValues?_cons]
      cases lastValues? name (e'.accepted xs) with
      | some values => rfl
      | none => by_cases hname : x.name = name <;> simp [hname]

/-! ## Runs that end alike -/

theorem getElem_mem_zip {α β : Type} {as : List α} {bs : List β} {i : Nat} (ha : i < as.length) (hb : i < bs.length) :
    (as[i], bs[i]) ∈ as.zip bs := by
  have hi : i < (as.zip bs).length := by
    rw [List.length_zip]
    exact Nat.lt_min.2 ⟨ha, hb⟩
  exact List.mem_of_getElem (h := hi) List.getElem_zip

/-- **An entity is made up of its frame and of what it has under each name.** -/
theorem Regular.eq_of_get (h : e.Regular) (hframe : e.SameFrame e') (hget : ∀ name, e'.get name = e.get name) :
    e' = e := by
  have h' := h.of_sameFrame hframe
  have hslots : e'.slots = e.slots := by
    apply List.ext_getElem hframe.length_eq
    intro i hi' hi
    have hp : i < e.schema.properties.length := h.length_eq ▸ hi
    have hcell : (e.schema.properties[i], e.slots[i]) ∈ e.cells := getElem_mem_zip hp hi
    have hcell' : (e.schema.properties[i], e'.slots[i]) ∈ e'.cells := by
      rw [cells, hframe.schema_eq]
      exact getElem_mem_zip hp hi'
    have hvalues := hget e.schema.properties[i].name
    rw [get_of_lookup? (h.lookup?_eq_some_iff.2 ⟨hcell, rfl⟩),
      get_of_lookup? (h'.lookup?_eq_some_iff.2 ⟨hcell', rfl⟩), Except.ok.injEq] at hvalues
    have htype : e'.slots[i].valueType = e.slots[i].valueType := by
      simpa [hi, hi'] using congrArg (·[i]?) hframe.types_eq
    exact congr (congrArg Slot.mk htype) hvalues
  have hschema := hframe.schema_eq
  have hsubject := hframe.subject_eq
  cases e
  cases e'
  simp_all

/-- Runs end alike if they write the same last under each name. -/
theorem Regular.editAll_congr (h : e.Regular)
    (hlast : ∀ name, lastValues? name (e.accepted xs) = lastValues? name (e.accepted ys)) :
    e.editAll xs = e.editAll ys := by
  have hxs := sameFrame_editAll e xs
  have hys := sameFrame_editAll e ys
  refine (h.of_sameFrame hys).eq_of_get ⟨hxs.schema_eq.trans hys.schema_eq.symm,
    hxs.subject_eq.trans hys.subject_eq.symm, hxs.types_eq.trans hys.types_eq.symm⟩ fun name => ?_
  rw [get_editAll, get_editAll, hlast]

open Classical in
/-- **Which edits of a run are accepted does not depend on the others.** -/
theorem Regular.accepted_eq_filter (h : e.Regular) (xs : List Edit) :
    e.accepted xs = xs.filter fun x => x.Permitted e.kinds := by
  induction xs generalizing e with
  | nil => rfl
  | cons x xs ih =>
    rw [accepted]
    by_cases hx : x.Permitted e.kinds
    · have happly := h.apply_eq_ok_iff.2 ⟨hx, rfl⟩
      have hframe := sameFrame_edit e x
      rw [edit_of_ok happly] at hframe
      rw [List.filter_cons_of_pos (by simpa using hx), happly, ← hframe.kinds_eq, ← ih (h.of_sameFrame hframe)]
    · rw [List.filter_cons_of_neg (by simpa using hx), ← ih h]
      cases happly : e.apply x with
      | error err => rfl
      | ok e' => exact absurd (h.apply_eq_ok_iff.1 happly).1 hx

/-- **The last write wins, and a refused one leaves no trace.**  At any time of a run, an edit is accepted just when it
is permitted by the properties and the types of the slots, and what is told of it otherwise depends on these alone.
After the run, schema, subject and types are as they were, and under each name is what the last accepted edit on it
wrote, or what was there before.  A refused edit may be left out, and edits on different names may change places. -/
theorem last_edit_wins (h : e.Regular) :
    (∀ xs x, ((∃ e', (e.editAll xs).apply x = .ok e') ↔ x.Permitted e.kinds) ∧
      ∀ err, (e.editAll xs).apply x = .error err ↔ x.Refused e.schema.name e.kinds err) ∧
    (∀ xs, e.SameFrame (e.editAll xs) ∧ ∀ name, (e.editAll xs).get name =
      match lastValues? name (e.accepted xs) with
      | some values => .ok values
      | none => e.get name) ∧
    (∀ before x after err, (e.editAll before).apply x = .error err →
      e.editAll (before ++ x :: after) = e.editAll (before ++ after)) ∧
    ∀ xs ys, (∀ name, xs.filter (·.name = name) = ys.filter (·.name = name)) → e.editAll xs = e.editAll ys := by
  refine ⟨fun xs x => ?_, fun xs => ⟨sameFrame_editAll e xs, get_editAll e xs⟩, fun before x after err hx => ?_,
    fun xs ys hsame => h.editAll_congr fun name => ?_⟩
  · have hframe := sameFrame_editAll e xs
    have hrun := h.of_sameFrame hframe
    rw [← hframe.kinds_eq, ← hframe.schema_eq]
    refine ⟨⟨fun ⟨e', he'⟩ => (hrun.apply_eq_ok_iff.1 he').1, fun hx => ⟨_, hrun.apply_eq_ok_iff.2 ⟨hx, rfl⟩⟩⟩, ?_⟩
    exact fun err => hrun.apply_eq_error_iff
  · have hskip : (e.editAll before).edit x = e.editAll before := edit_of_error hx
    simp only [editAll, List.foldl_append, List.foldl_cons] at hskip ⊢
    rw [hskip]
  · classical
    have hpermitted : ∀ zs : List Edit, (zs.filter fun x => x.Permitted e.kinds).filter (·.name = name) =
        (zs.filter (·.name = name)).filter fun x => x.Permitted e.kinds := by
      intro zs
      rw [List.filter_filter, List.filter_filter]
      simp only [Bool.and_comm]
    rw [lastValues?, lastValues?, h.accepted_eq_filter, h.accepted_eq_filter, hpermitted, hpermitted, hsame]

end Entity

open Example in
/-- The second weight was refused, so the parcel has the first; and the label might as well have been set before it. -/
theorem Entity.last_edit_wins_parcel : parcel.Regular ∧
    (parcel.editAll parcelEdits).get "weight" = .ok [.literal (.integer 3)] ∧
    parcel.editAll [.set "weight" [.literal (.integer 3)], .set "label" [.entity label]] =
      parcel.editAll [.set "label" [.entity label], .set "weight" [.literal (.integer 3)]] := by
  have hregular : parcel.Regular := Obtained.regular (.empty _ _) (by decide)
  have hwins := last_edit_wins hregular
  refine ⟨hregular, (hwins.2.1 parcelEdits).2 "weight", hwins.2.2.2 _ _ fun name => ?_⟩
  by_cases hname : "weight" = name
  · subst hname
    simp [Edit.name]
  · simp [List.filter_cons, Edit.name, hname]

end ShapeBinding
