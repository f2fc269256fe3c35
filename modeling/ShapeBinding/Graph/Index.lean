import ShapeBinding.Term
/-!
# Positions by term

An index lists, for each term, the positions in a row of triples at which the term stands in one place of the triple.
`positionsWhere` says what those lists have to be, and `Indexes` that an index has them for every term; inserting the
triple that comes next keeps it so (`Indexes.insert`), and looking the positions up again gives the triples themselves
(`getAll_positionsWhere`).
-/
namespace ShapeBinding

/-! ## Positions in a row of triples -/

/-- The positions of the triples that satisfy `p`, ascending. -/
def positionsWhere (p : Triple → Bool) (ts : List Triple) : List Nat :=
  (ts.zipIdx.filter fun x => p x.1).map (·.2)

@[simp] theorem positionsWhere_nil (p : Triple → Bool) : positionsWhere p [] = [] := rfl

theorem positionsWhere_append_singleton (p : Triple → Bool) (ts : List Triple) (t : Triple) :
    positionsWhere p (ts ++ [t]) = if p t then positionsWhere p ts ++ [ts.length] else positionsWhere p ts := by
  unfold positionsWhere
  rw [List.zipIdx_append, List.filter_append, List.map_append]
  cases h : p t <;> simp [h]

def getAll (ts : Array Triple) (positions : List Nat) : List Triple := positions.filterMap (ts[·]?)

theorem filterMap_eq_map_of_forall {α β : Type} (f : α → Option β) (g : α → β) :
    ∀ l : List α, (∀ x ∈ l, f x = some (g x)) → l.filterMap f = l.map g
  | [], _ => rfl
  | a :: l, h => by
    rw [List.filterMap_cons_some (h a (List.mem_cons_self ..)), List.map_cons,
      filterMap_eq_map_of_forall f g l fun x hx => h x (List.mem_cons_of_mem a hx)]

theorem getAll_positionsWhere (p : Triple → Bool) (ts : Array Triple) :
    getAll ts (positionsWhere p ts.toList) = ts.toList.filter p := by
  unfold getAll positionsWhere
  rw [List.filterMap_map, filterMap_eq_map_of_forall _ Prod.fst]
  · have hf : (ts.toList.zipIdx.filter fun x => p x.1).map Prod.fst = (ts.toList.zipIdx.map Prod.fst).filter p := by
      rw [List.filter_map]
      rfl
    rw [hf, List.zipIdx_map_fst]
  · intro x hx
    have := List.mem_zipIdx_iff_getElem?.1 (List.mem_filter.1 hx).1
    simpa using this

/-! ## Indexes -/

structure Index where
  entries : List (Term × List Nat)

namespace Index

def empty : Index := ⟨[]⟩

def positions (ix : Index) (key : Term) : List Nat := (ix.entries.lookup key).getD []

/-- Adds a position at the end of a term's list. -/
def insertEntry (key : Term) (position : Nat) : List (Term × List Nat) → List (Term × List Nat)
  | [] => [(key, [position])]
  | e :: es => if e.1 = key then (key, e.2 ++ [position]) :: es else e :: insertEntry key position es

def insert (ix : Index) (key : Term) (position : Nat) : Index := ⟨insertEntry key position ix.entries⟩

@[simp] theorem positions_empty (key : Term) : empty.positions key = [] := rfl

theorem lookup_insertEntry (key k : Term) (position : Nat) : ∀ es : List (Term × List Nat),
    ((insertEntry key position es).lookup k).getD [] =
      if k = key then (es.lookup k).getD [] ++ [position] else (es.lookup k).getD []
  | [] => by
    by_cases h : k = key
    · simp [insertEntry, h]
    · have h1 : (k == key) = false := by simpa using h
      simp [insertEntry, List.lookup_cons, h, h1]
  | (d, positions) :: es => by
    have ih := lookup_insertEntry key k position es
    unfold insertEntry
    by_cases he : d = key
    · by_cases h : k = key
      · simp [he, h]
      · have h1 : (k == key) = false := by simpa using h
        simp [he, List.lookup_cons, h, h1]
    · by_cases hk : k = d
      · simp [he, hk]
      · have h1 : (k == d) = false := by simpa using hk
        simp [he, List.lookup_cons, h1, ih]

theorem positions_insert (ix : Index) (key k : Term) (position : Nat) : (ix.insert key position).positions k =
    if k = key then ix.positions k ++ [position] else ix.positions k :=
  lookup_insertEntry key k position ix.entries

/-- **The index is right for a row of triples**: each term's list is exactly where it stands in the place `key`. -/
def Indexes (ix : Index) (key : Triple → Term) (ts : List Triple) : Prop :=
  ∀ k, ix.positions k = positionsWhere (fun t => key t = k) ts

theorem indexes_empty (key : Triple → Term) : empty.Indexes key [] := fun _ => rfl

theorem Indexes.insert {ix : Index} {key : Triple → Term} {ts : List Triple} (h : ix.Indexes key ts) (t : Triple) :
    (ix.insert (key t) ts.length).Indexes key (ts ++ [t]) := by
  intro k
  rw [positions_insert, positionsWhere_append_singleton, h k]
  by_cases hk : k = key t
  · simp [hk]
  · simp [hk, Ne.symm hk]

end Index
end ShapeBinding
