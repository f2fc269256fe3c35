import Mathlib.Data.List.Nodup
import ShapeBinding.Proofs.Catalog
/-!
# Runs of registrations

A catalog that came about by any calls holds the schemas that were accepted, in the order of the calls, and answers
every look-up and every further call from them (`Catalog.Keeps`).  A catalog may be stored as a shelf: the schemas stand
in a row, and two tables tell the positions of their names and of their target types.  A registration has to change all
three together, or none of them; as it does (`Shelf.Stores.register_of_ok`, `Shelf.Stores.register_of_error`), the tables
never lose step with the row, and the shelf answers as the catalog does after any calls
(`Catalog.keeps_accepted_of_calls`).
-/
namespace ShapeBinding
namespace Catalog

/-! ## What a catalog answers -/

/-- **Why a schema is refused** when others are known: its name is taken, or else its target type is, and then the
schema that has it is named. -/
inductive Clash (known : List Schema) (s : Schema) : CompileError → Prop
  | name {t : Schema} (ht : t ∈ known) (hname : t.name = s.name) : Clash known s (.duplicateSchema s.name)
  | target {t : Schema} (hfree : ∀ u ∈ known, u.name ≠ s.name) (ht : t ∈ known)
      (htarget : t.targetType = s.targetType) : Clash known s (.duplicateTarget s.targetType t.name s.name)

/-- **The catalog keeps a row of schemas**: it lists them, finds each by its name and by its target type, which no other
has, and accepts just the schemas that do not clash with one of them. -/
structure Keeps (c : Catalog) (known : List Schema) : Prop where
  schemas_eq : c.schemas = known
  size_eq : c.size = known.length
  names_nodup : (known.map (·.name)).Nodup
  targets_nodup : (known.map (·.targetType)).Nodup
  byName?_iff : ∀ name s, c.byName? name = some s ↔ s ∈ known ∧ s.name = name
  byTarget?_iff : ∀ target s, c.byTarget? target = some s ↔ s ∈ known ∧ s.targetType = target
  register_ok_iff : ∀ s, (∃ c', c.register s = .ok c') ↔ ∀ t ∈ known, t.name ≠ s.name ∧ t.targetType ≠ s.targetType
  register_error_iff : ∀ s err, c.register s = .error err ↔ Clash known s err

variable {c c' : Catalog} {s : Schema} {err : CompileError}

theorem register_eq_error_iff : c.register s = .error err ↔ Clash c.schemas s err := by
  have hname : ∀ t, c.byName? s.name = some t ↔ t ∈ c.schemas ∧ t.name = s.name := fun t => byName?_eq_some_iff
  have htarget : ∀ t, c.byTarget? s.targetType = some t ↔ t ∈ c.schemas ∧ t.targetType = s.targetType :=
    fun t => byTarget?_eq_some_iff
  unfold register
  split
  · rename_i t hn
    obtain ⟨ht, htn⟩ := (hname t).1 hn
    constructor
    · intro h
      cases h
      exact .name ht htn
    · intro h
      cases h with
      | name _ _ => rfl
      | target hfree _ _ => exact absurd htn (hfree t ht)
  · rename_i t hn htt
    obtain ⟨ht, htarget'⟩ := (htarget t).1 htt
    have hfree : ∀ u ∈ c.schemas, u.name ≠ s.name := fun u hu hun => by
      rw [(hname u).2 ⟨hu, hun⟩] at hn
      cases hn
    constructor
    · intro h
      cases h
      exact .target hfree ht htarget'
    · intro h
      cases h with
      | name hu hun => exact absurd hun (hfree _ hu)
      | target _ hu hut =>
        rw [(htarget _).2 ⟨hu, hut⟩] at htt
        cases htt
        rfl
  · rename_i hn htt
    constructor
    · intro h
      cases h
    · intro h
      cases h with
      | name hu hun =>
        rw [(hname _).2 ⟨hu, hun⟩] at hn
        cases hn
      | target _ hu hut =>
        rw [(htarget _).2 ⟨hu, hut⟩] at htt
        cases htt

/-- **Every catalog keeps its schemas.** -/
theorem keeps_schemas (c : Catalog) : c.Keeps c.schemas where
  schemas_eq := rfl
  size_eq := rfl
  names_nodup := c.names_nodup
  targets_nodup := c.targets_nodup
  byName?_iff _ _ := byName?_eq_some_iff
  byTarget?_iff _ _ := byTarget?_eq_some_iff
  register_ok_iff s := by
    rw [exists_register_iff, List.mem_map, List.mem_map]
    simp only [not_exists, not_and]
    exact ⟨fun h t ht => ⟨h.1 t ht, h.2 t ht⟩, fun h => ⟨fun t ht => (h t ht).1, fun t ht => (h t ht).2⟩⟩
  register_error_iff _ _ := register_eq_error_iff

/-! ## Runs of calls -/

/-- The catalog after some calls, each of them accepted or refused by the catalog as it is then. -/
def afterCalls (c : Catalog) : List Schema → Catalog
  | [] => c
  | s :: ss =>
    match c.register s with
    | .ok c' => c'.afterCalls ss
    | .error _ => c.afterCalls ss

/-- The schemas that some calls accept, in the order of the calls. -/
def acceptedIn (c : Catalog) : List Schema → List Schema
  | [] => []
  | s :: ss =>
    match c.register s with
    | .ok c' => s :: c'.acceptedIn ss
    | .error _ => c.acceptedIn ss

/-- **A run adds what it accepts**, in the order of the calls. -/
theorem schemas_afterCalls (c : Catalog) (ss : List Schema) :
    (c.afterCalls ss).schemas = c.schemas ++ c.acceptedIn ss := by
  induction ss generalizing c with
  | nil => rw [afterCalls, acceptedIn, List.append_nil]
  | cons s ss ih =>
    rw [afterCalls, acceptedIn]
    cases h : c.register s with
    | error err => exact ih c
    | ok c' =>
      obtain ⟨-, -, hschemas, -⟩ := register_eq_ok_iff.1 h
      simp only [ih, hschemas, List.append_assoc, List.singleton_append]

end Catalog

/-! ## Tables of positions -/

/-- **A table tells the positions of the keys** in a row of schemas. -/
def Positions (table : Std.HashMap String Nat) (key : Schema → String) (row : List Schema) : Prop :=
  ∀ k i, table[k]? = some i ↔ ∃ s, row[i]? = some s ∧ key s = k

namespace Positions

variable {table : Std.HashMap String Nat} {key : Schema → String} {row : List Schema} {s : Schema}

theorem empty (key : Schema → String) : Positions ∅ key [] := by
  intro k i
  simp

theorem contains_iff (h : Positions table key row) (k : String) : table.contains k = true ↔ k ∈ row.map key := by
  rw [Std.HashMap.contains_eq_isSome_getElem?, Option.isSome_iff_exists, List.mem_map]
  simp only [h k, List.mem_iff_getElem?]
  exact ⟨fun ⟨i, t, ht, hk⟩ => ⟨t, ⟨i, ht⟩, hk⟩, fun ⟨t, ⟨i, ht⟩, hk⟩ => ⟨i, t, ht, hk⟩⟩

/-- **The position of a new key goes into the table when its schema goes to the end of the row.** -/
theorem insert (h : Positions table key row) (hnew : key s ∉ row.map key) :
    Positions (table.insert (key s) row.length) key (row ++ [s]) := by
  intro k i
  rw [Std.HashMap.getElem?_insert]
  by_cases hk : key s = k
  · subst hk
    simp only [beq_self_eq_true, if_true, Option.some.injEq]
    constructor
    · rintro rfl
      exact ⟨s, List.getElem?_concat_length, rfl⟩
    · rintro ⟨t, ht, hkey⟩
      -- a place before the end would have the key already
      rcases Nat.lt_or_ge i row.length with hi | hi
      · rw [List.getElem?_append_left hi] at ht
        exact absurd (List.mem_map.2 ⟨t, List.mem_of_getElem? ht, hkey⟩) hnew
      · have hlength := (List.getElem?_eq_some_iff.1 ht).1
        rw [List.length_append, List.length_singleton] at hlength
        omega
  · rw [if_neg (by simpa using hk), h k i]
    refine exists_congr fun t => and_congr_left fun hkey => ?_
    rcases Nat.lt_or_ge i row.length with hi | hi
    · rw [List.getElem?_append_left hi]
    · rw [List.getElem?_append_right hi, List.getElem?_eq_none hi]
      have hts : t ≠ s := fun hts => hk (hts ▸ hkey)
      cases i - row.length <;> simp [hts.symm]

/-- **What stands at the position of a key is what a search by the key finds.** -/
theorem bind_getElem? (h : Positions table key row) (hnodup : (row.map key).Nodup) (k : String) :
    table[k]?.bind (row[·]?) = row.find? (key · = k) := by
  ext s
  rw [find?_key_eq_some_iff hnodup, Option.bind_eq_some_iff, List.mem_iff_getElem?]
  constructor
  · rintro ⟨i, hi, hs⟩
    obtain ⟨t, ht, hkey⟩ := (h k i).1 hi
    rw [ht] at hs
    cases hs
    exact ⟨⟨i, ht⟩, hkey⟩
  · rintro ⟨⟨i, hs⟩, hkey⟩
    exact ⟨i, (h k i).2 ⟨s, hs, hkey⟩, hs⟩

end Positions

/-! ## Shelves -/

/-- Schemas in a row, with the positions of their names and of their target types. -/
structure Shelf where
  schemas : Array Schema
  names : Std.HashMap String Nat
  targets : Std.HashMap String Nat

namespace Shelf

def empty : Shelf := ⟨#[], ∅, ∅⟩

def byName? (r : Shelf) (name : String) : Option Schema := r.names[name]?.bind (r.schemas[·]?)

def byTarget? (r : Shelf) (target : String) : Option Schema := r.targets[target]?.bind (r.schemas[·]?)

/-- One call: what is told of it, and the shelf after it.  The schema goes to the end of the row and its position into
both tables, unless its name or its target is taken. -/
def register (r : Shelf) (s : Schema) : Except CompileError Unit × Shelf :=
  if r.names.contains s.name then (.error (.duplicateSchema s.name), r)
  else
    match r.byTarget? s.targetType with
    | some existing => (.error (.duplicateTarget s.targetType existing.name s.name), r)
    | none =>
      let names := r.names.insert s.name r.schemas.size
      let targets := r.targets.insert s.targetType r.schemas.size
      (.ok (), ⟨r.schemas.push s, names, targets⟩)

/-- The shelf after some calls. -/
def afterCalls (r : Shelf) (ss : List Schema) : Shelf := ss.foldl (fun r s => (r.register s).2) r

/-- **A shelf stores a catalog** if it has the same row and both tables tell the positions in it. -/
structure Stores (r : Shelf) (c : Catalog) : Prop where
  schemas_eq : r.schemas.toList = c.schemas
  names : Positions r.names (·.name) c.schemas
  targets : Positions r.targets (·.targetType) c.schemas

variable {r : Shelf} {c c' : Catalog} {s : Schema} {err : CompileError}

theorem stores_empty (ns : Namespaces) : empty.Stores (.empty ns) := ⟨rfl, .empty _, .empty _⟩

namespace Stores

theorem byName?_eq (h : r.Stores c) (name : String) : r.byName? name = c.byName? name := by
  rw [Catalog.byName?, ← h.names.bind_getElem? c.names_nodup, byName?, ← h.schemas_eq]
  simp only [Array.getElem?_toList]

theorem byTarget?_eq (h : r.Stores c) (target : String) : r.byTarget? target = c.byTarget? target := by
  rw [Catalog.byTarget?, ← h.targets.bind_getElem? c.targets_nodup, byTarget?, ← h.schemas_eq]
  simp only [Array.getElem?_toList]

/-- **A call that the catalog accepts keeps the tables in step with the row.** -/
theorem register_of_ok (h : r.Stores c) (hregister : c.register s = .ok c') :
    (r.register s).1 = .ok () ∧ (r.register s).2.Stores c' := by
  obtain ⟨hname, htarget, hschemas, -⟩ := Catalog.register_eq_ok_iff.1 hregister
  have hsize : r.schemas.size = c.schemas.length := by rw [← h.schemas_eq, Array.length_toList]
  have hnewName := Catalog.byName?_eq_none_iff.1 hname
  have hnewTarget := Catalog.byTarget?_eq_none_iff.1 htarget
  rw [Shelf.register, if_neg (mt (h.names.contains_iff s.name).1 hnewName), h.byTarget?_eq, htarget]
  refine ⟨rfl, ?_, ?_, ?_⟩
  · rw [Array.toList_push, h.schemas_eq, hschemas]
  · rw [hsize, hschemas]
    exact h.names.insert hnewName
  · rw [hsize, hschemas]
    exact h.targets.insert hnewTarget

/-- **A call that the catalog refuses** is refused by the shelf for the same reason, and leaves it as it was. -/
theorem register_of_error (h : r.Stores c) (hregister : c.register s = .error err) :
    r.register s = (.error err, r) := by
  have hcontains := h.names.contains_iff s.name
  cases Catalog.register_eq_error_iff.1 hregister with
  | name ht hname => exact if_pos (hcontains.2 (List.mem_map.2 ⟨_, ht, hname⟩))
  | target hfree ht htarget =>
    have hnewName : s.name ∉ c.schemas.map (·.name) := fun hmem => by
      obtain ⟨u, hu, hun⟩ := List.mem_map.1 hmem
      exact hfree u hu hun
    rw [Shelf.register, if_neg (mt hcontains.1 hnewName), h.byTarget?_eq,
      Catalog.byTarget?_eq_some_iff.2 ⟨ht, htarget⟩]

/-- **After any calls, the shelf stores what the catalog is.** -/
theorem afterCalls (h : r.Stores c) (ss : List Schema) : (r.afterCalls ss).Stores (c.afterCalls ss) := by
  induction ss generalizing r c with
  | nil => exact h
  | cons s ss ih =>
    have hrun : r.afterCalls (s :: ss) = (r.register s).2.afterCalls ss := rfl
    rw [hrun, Catalog.afterCalls]
    cases hregister : c.register s with
    | ok c' => exact ih (h.register_of_ok hregister).2
    | error err =>
      rw [h.register_of_error hregister]
      exact ih h

end Stores

/-- **A shelf answers as a catalog does**, to every look-up and to every call, and a call that it refuses leaves it as
it was. -/
structure AnswersAs (r : Shelf) (c : Catalog) : Prop where
  schemas_eq : r.schemas.toList = c.schemas
  byName?_eq : ∀ name, r.byName? name = c.byName? name
  byTarget?_eq : ∀ target, r.byTarget? target = c.byTarget? target
  register_ok_iff : ∀ s, (r.register s).1 = .ok () ↔ ∃ c', c.register s = .ok c'
  register_error_iff : ∀ s err, (r.register s).1 = .error err ↔ c.register s = .error err
  unchanged : ∀ s err, (r.register s).1 = .error err → (r.register s).2 = r

theorem Stores.answersAs (h : r.Stores c) : r.AnswersAs c := by
  refine ⟨h.schemas_eq, h.byName?_eq, h.byTarget?_eq, fun s => ?_, fun s err => ?_, fun s err => ?_⟩ <;>
    cases hregister : c.register s with
    | ok c' => simp [(h.register_of_ok hregister).1]
    | error err' => simp [h.register_of_error hregister]

end Shelf

/-- **A catalog is the row of the schemas that it accepted.**  After any registrations, it lists them in the order of
the calls, finds each by its name and by its target type, and accepts just the schemas that clash with none of them; it
tells of a taken name first and of a taken target type otherwise.  A shelf that takes the same calls keeps its tables in
step: it answers alike, and a call that it refuses leaves its row and its tables as they were. -/
theorem Catalog.keeps_accepted_of_calls (ns : Namespaces) (ss : List Schema) :
    ((empty ns).afterCalls ss).Keeps ((empty ns).acceptedIn ss) ∧
    (Shelf.empty.afterCalls ss).AnswersAs ((empty ns).afterCalls ss) := by
  constructor
  · have hrow : ((empty ns).afterCalls ss).schemas = (empty ns).acceptedIn ss := schemas_afterCalls (empty ns) ss
    rw [← hrow]
    exact keeps_schemas _
  · exact ((Shelf.stores_empty ns).afterCalls ss).answersAs

end ShapeBinding
