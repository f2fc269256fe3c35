import ShapeBinding.Graph.Index
import ShapeBinding.Namespace
/-!
# Graphs

A graph is a set of triples that remembers the order in which they came, and carries the namespace labels of its source.
Three indexes, one for each place of a triple, narrow a search down before the triples themselves are compared; which of
them is read never shows, since every search answers with the matching triples in insertion order (`find_eq_filter`).
-/
namespace ShapeBinding

/-! ## Patterns -/

/-- A term for each place of a triple that is bound, and nothing for a place that may be anything. -/
structure Pattern where
  subject : Option Term
  predicate : Option Term
  object : Option Term
  deriving DecidableEq, Repr

def Pattern.fits (q : Pattern) (t : Triple) : Bool :=
  q.subject.all (t.subject = ·) && q.predicate.all (t.predicate = ·) && q.object.all (t.object = ·)

/-- The shortest of some lists, the first if several are as short. -/
def shortest? : List (List Nat) → Option (List Nat)
  | [] => none
  | l :: ls =>
    match shortest? ls with
    | none => some l
    | some m => if m.length < l.length then some m else some l

theorem mem_of_shortest? : ∀ {ls : List (List Nat)} {l : List Nat}, shortest? ls = some l → l ∈ ls
  | l' :: ls, l, h => by
    unfold shortest? at h
    split at h
    · simp_all
    · rename_i m hm
      have := mem_of_shortest? hm
      split at h <;> simp_all

/-! ## Graphs and insertion -/

structure Graph where
  triples : Array Triple
  bySubject : Index
  byPredicate : Index
  byObject : Index
  /-- Namespace labels with their bases, at most one base to a label. -/
  labels : List (String × String)
  nodup : triples.toList.Nodup
  indexes_subject : bySubject.Indexes (·.subject) triples.toList
  indexes_predicate : byPredicate.Indexes (·.predicate) triples.toList
  indexes_object : byObject.Indexes (·.object) triples.toList

namespace Graph

def empty : Graph := ⟨#[], .empty, .empty, .empty, [], .nil, Index.indexes_empty _, Index.indexes_empty _,
  Index.indexes_empty _⟩

instance : EmptyCollection Graph := ⟨empty⟩

instance : Inhabited Graph := ⟨empty⟩

def toList (g : Graph) : List Triple := g.triples.toList

def size (g : Graph) : Nat := g.triples.size

def isEmpty (g : Graph) : Bool := g.triples.isEmpty

/-- Whether the graph holds a triple; only the triples with its subject are looked at. -/
def contains (g : Graph) (t : Triple) : Bool := (getAll g.triples (g.bySubject.positions t.subject)).contains t

theorem contains_iff {g : Graph} {t : Triple} : g.contains t = true ↔ t ∈ g.toList := by
  rw [contains, g.indexes_subject t.subject, getAll_positionsWhere, List.contains_iff_mem, List.mem_filter]
  simp [toList]

def push (g : Graph) (t : Triple) (h : t ∉ g.toList) : Graph where
  triples := g.triples.push t
  bySubject := g.bySubject.insert t.subject g.triples.size
  byPredicate := g.byPredicate.insert t.predicate g.triples.size
  byObject := g.byObject.insert t.object g.triples.size
  labels := g.labels
  nodup := by
    rw [Array.toList_push, List.nodup_append]
    exact ⟨g.nodup, List.pairwise_singleton _ _, fun a ha b hb hab => h (by
      rw [List.mem_singleton.1 hb] at hab
      exact hab ▸ ha)⟩
  indexes_subject := by rw [Array.toList_push, ← Array.length_toList]; exact g.indexes_subject.insert t
  indexes_predicate := by rw [Array.toList_push, ← Array.length_toList]; exact g.indexes_predicate.insert t
  indexes_object := by rw [Array.toList_push, ← Array.length_toList]; exact g.indexes_object.insert t

/-- Adds a triple unless the graph holds it already. -/
def insert (g : Graph) (t : Triple) : Graph :=
  if h : g.contains t then g else g.push t fun hm => h (contains_iff.2 hm)

/-- Inserts a triple, and tells whether the graph did not hold it before. -/
def insertNew (g : Graph) (t : Triple) : Bool × Graph := (!g.contains t, g.insert t)

def add (g : Graph) (subject predicate object : Term) : Graph := g.insert ⟨subject, predicate, object⟩

def insertAll (g : Graph) (ts : List Triple) : Graph := ts.foldl insert g

def ofList (ts : List Triple) : Graph := empty.insertAll ts

@[simp] theorem toList_empty : empty.toList = [] := rfl

theorem toList_insert (g : Graph) (t : Triple) :
    (g.insert t).toList = if t ∈ g.toList then g.toList else g.toList ++ [t] := by
  unfold insert
  by_cases h : g.contains t = true
  · rw [dif_pos h, if_pos (contains_iff.1 h)]
  · rw [dif_neg h, if_neg fun hm => h (contains_iff.2 hm)]
    exact Array.toList_push

theorem length_toList (g : Graph) : g.toList.length = g.size := Array.length_toList

/-! ## Searching -/

/-- The lists of positions that the bound places of a pattern allow. -/
def candidates (g : Graph) (q : Pattern) : List (List Nat) :=
  (q.subject.map g.bySubject.positions).toList ++ (q.predicate.map g.byPredicate.positions).toList ++
    (q.object.map g.byObject.positions).toList

/-- The triples that fit a pattern, in the order in which they came.  Only the shortest list of candidates is read. -/
def find (g : Graph) (q : Pattern) : List Triple :=
  match shortest? (g.candidates q) with
  | some positions => (getAll g.triples positions).filter q.fits
  | none => g.toList.filter q.fits

/-- A list of candidates gives all the triples that fit, whichever place it comes from. -/
theorem filter_getAll_of_mem_candidates {g : Graph} {q : Pattern} {positions : List Nat}
    (h : positions ∈ g.candidates q) : (getAll g.triples positions).filter q.fits = g.toList.filter q.fits := by
  have key : ∀ (ix : Index) (f : Triple → Term) (k : Term), ix.Indexes f g.triples.toList →
      (∀ t, q.fits t = true → f t = k) →
      (getAll g.triples (ix.positions k)).filter q.fits = g.toList.filter q.fits := by
    intro ix f k hix hk
    rw [hix k, getAll_positionsWhere, List.filter_filter]
    refine List.filter_congr fun t _ => ?_
    cases hf : q.fits t with
    | false => rfl
    | true => simp [hk t hf]
  simp only [candidates, List.mem_append, Option.mem_toList, Option.map_eq_some_iff] at h
  rcases h with (⟨k, hk, rfl⟩ | ⟨k, hk, rfl⟩) | ⟨k, hk, rfl⟩
  · exact key _ _ k g.indexes_subject fun t ht => by simp_all [Pattern.fits]
  · exact key _ _ k g.indexes_predicate fun t ht => by simp_all [Pattern.fits]
  · exact key _ _ k g.indexes_object fun t ht => by simp_all [Pattern.fits]

/-- **A search is a filter**: the indexes never change an answer. -/
theorem find_eq_filter (g : Graph) (q : Pattern) : g.find q = g.toList.filter q.fits := by
  unfold find
  split
  · rename_i positions h
    exact filter_getAll_of_mem_candidates (mem_of_shortest? h)
  · rfl

def objects (g : Graph) (subject predicate : Term) : List Term :=
  (g.find ⟨some subject, some predicate, none⟩).map (·.object)

/-- The distinct subjects that have an object under a predicate, in the order in which they are first met. -/
def subjects (g : Graph) (predicate object : Term) : List Term :=
  ((g.find ⟨none, some predicate, some object⟩).map (·.subject)).eraseDups

def object? (g : Graph) (subject predicate : Term) : Option Term := (g.objects subject predicate).head?

def predicateObjects (g : Graph) (subject : Term) : List (Term × Term) :=
  (g.find ⟨some subject, none, none⟩).map fun t => (t.predicate, t.object)

/-! ## Namespace labels -/

/-- Puts a base in the place of the one that the label has, or at the end. -/
def bindLabel (label base : String) : List (String × String) → List (String × String)
  | [] => [(label, base)]
  | e :: es => if e.1 = label then (label, base) :: es else e :: bindLabel label base es

def addLabel (g : Graph) (label base : String) : Graph := { g with labels := bindLabel label base g.labels }

def namespaces (g : Graph) : Except LabelConflict Namespaces := Namespaces.ofPairs g.labels

end Graph
end ShapeBinding
