import ShapeBinding.Proofs.Graph.Objects
/-!
# Graphs as ordered sets of triples

A graph that came about by any calls answers as the row of the distinct triples that were handed over, in the order of
their first occurrences: it holds them and no others, and a search through it is a filter of the row, whichever index is
read (`Graph.Shows`).  One call appends to that row what is new to it (`Graph.toList_call`), and so does a run of calls
(`Graph.toList_calls`); what an insertion answers is whether the triple came before (`Graph.getElem?_calls`).
-/
namespace ShapeBinding

/-- The subjects that a row of triples has with a predicate and an object. -/
def subjectsIn (ts : List Triple) (predicate object : Term) : List Term :=
  (ts.filter fun t => t.predicate = predicate ∧ t.object = object).map (·.subject)

theorem eraseDups_eraseDups_append {α : Type} [DecidableEq α] (as bs : List α) :
    (as.eraseDups ++ bs).eraseDups = (as ++ bs).eraseDups := by
  induction bs using List.reverseRecOn with
  | nil => rw [List.append_nil, List.append_nil, eraseDups_of_nodup (nodup_eraseDups as)]
  | append_singleton bs b ih =>
    rw [← List.append_assoc, ← List.append_assoc, eraseDups_append_singleton, eraseDups_append_singleton, ih]
    simp only [List.mem_append, List.mem_eraseDups]

namespace Graph

/-! ## What a graph shows -/

/-- **The graph answers as a row of triples does.**  A search through it is a filter of the row, also if another index
is read than the one that the search picks. -/
structure Shows (g : Graph) (ts : List Triple) : Prop where
  toList_eq : g.toList = ts
  size_eq : g.size = ts.length
  contains_iff_mem : ∀ t, g.contains t = true ↔ t ∈ ts
  find_eq : ∀ q, g.find q = ts.filter q.fits
  nodup_find : ∀ q, (g.find q).Nodup
  scan_eq : ∀ q, ∀ positions ∈ g.candidates q, (getAll g.triples positions).filter q.fits = ts.filter q.fits
  objects_eq : ∀ subject predicate, g.objects subject predicate = objectsIn ts subject predicate
  object?_eq : ∀ subject predicate, g.object? subject predicate = (objectsIn ts subject predicate).head?
  predicateObjects_eq : ∀ subject, g.predicateObjects subject = pairsIn ts subject
  subjects_eq : ∀ predicate object, g.subjects predicate object = (subjectsIn ts predicate object).eraseDups

theorem subjects_eq_subjectsIn (g : Graph) (predicate object : Term) :
    g.subjects predicate object = (subjectsIn g.toList predicate object).eraseDups := by
  rw [subjects, find_eq_filter, subjectsIn]
  congr 2
  apply List.filter_congr
  intro t _
  simp [Pattern.fits]

/-- **Every graph shows its triples.** -/
theorem shows_toList (g : Graph) : g.Shows g.toList where
  toList_eq := rfl
  size_eq := g.length_toList.symm
  contains_iff_mem t := contains_iff
  find_eq := g.find_eq_filter
  nodup_find q := by
    rw [find_eq_filter]
    exact g.nodup_toList.filter _
  scan_eq q positions h := filter_getAll_of_mem_candidates h
  objects_eq := g.objects_eq_objectsIn
  object?_eq subject predicate := by rw [object?, objects_eq_objectsIn]
  predicateObjects_eq := g.predicateObjects_eq_pairsIn
  subjects_eq := g.subjects_eq_subjectsIn

/-! ## Calls -/

/-- A call that hands triples over to a graph. -/
inductive Call where
  | insert (t : Triple)
  | add (subject predicate object : Term)
  | extend (ts : List Triple)

/-- The triples that a call hands over. -/
def Call.triples : Call → List Triple
  | insert t => [t]
  | add subject predicate object => [⟨subject, predicate, object⟩]
  | extend ts => ts

/-- What a call has to answer after given triples: whether its triple is new, if it hands over just one. -/
def Call.answer (before : List Triple) : Call → Option Bool
  | insert t => some (t ∉ before)
  | add subject predicate object => some (⟨subject, predicate, object⟩ ∉ before)
  | extend _ => none

/-- What a call answers, and the graph after it. -/
def call (g : Graph) : Call → Option Bool × Graph
  | .insert t => ((g.insertNew t).1, (g.insertNew t).2)
  | .add subject predicate object =>
    ((g.insertNew ⟨subject, predicate, object⟩).1, (g.insertNew ⟨subject, predicate, object⟩).2)
  | .extend ts => (none, g.insertAll ts)

/-- What the calls of a run answer, and the graph after them. -/
def calls (g : Graph) : List Call → List (Option Bool) × Graph
  | [] => ([], g)
  | c :: cs => ((g.call c).1 :: ((g.call c).2.calls cs).1, ((g.call c).2.calls cs).2)

/-! ### One call -/

theorem insertNew_fst (g : Graph) (t : Triple) : (g.insertNew t).1 = decide (t ∉ g.toList) := by
  have hcontains : g.contains t = decide (t ∈ g.toList) :=
    Bool.eq_iff_iff.2 (contains_iff.trans decide_eq_true_iff.symm)
  rw [insertNew, decide_not, hcontains]

theorem toList_insertNew (g : Graph) (t : Triple) : (g.insertNew t).2.toList = (g.toList ++ [t]).eraseDups := by
  rw [insertNew, toList_insert, eraseDups_append_singleton, eraseDups_of_nodup g.nodup_toList]

/-- **A call adds what is new**, once and at the end. -/
theorem toList_call (g : Graph) (c : Call) : (g.call c).2.toList = (g.toList ++ c.triples).eraseDups := by
  cases c with
  | insert t => exact g.toList_insertNew t
  | add subject predicate object => exact g.toList_insertNew ⟨subject, predicate, object⟩
  | extend ts => exact g.toList_insertAll ts

theorem call_fst (g : Graph) (c : Call) : (g.call c).1 = c.answer g.toList := by
  cases c with
  | insert t => exact congrArg some (g.insertNew_fst t)
  | add subject predicate object => exact congrArg some (g.insertNew_fst ⟨subject, predicate, object⟩)
  | extend ts => rfl

theorem answer_congr {before before' : List Triple} (h : ∀ t, t ∈ before ↔ t ∈ before') (c : Call) :
    c.answer before = c.answer before' := by
  cases c <;> simp only [Call.answer, h]

/-! ### Runs of calls -/

theorem toList_calls (g : Graph) (cs : List Call) :
    (g.calls cs).2.toList = (g.toList ++ cs.flatMap Call.triples).eraseDups := by
  induction cs generalizing g with
  | nil => rw [calls, List.flatMap_nil, List.append_nil, eraseDups_of_nodup g.nodup_toList]
  | cons c cs ih => rw [calls, ih, toList_call, eraseDups_eraseDups_append, List.flatMap_cons, List.append_assoc]

/-- **What a call of a run answers** depends on the triples that the graph held and that were handed over since. -/
theorem getElem?_calls (g : Graph) (cs : List Call) (i : Nat) : (g.calls cs).1[i]? =
    cs[i]?.map fun c => c.answer (g.toList ++ (cs.take i).flatMap Call.triples) := by
  induction cs generalizing g i with
  | nil => rfl
  | cons c cs ih =>
    cases i with
    | zero =>
      rw [calls, List.getElem?_cons_zero, List.getElem?_cons_zero, call_fst]
      simp
    | succ i =>
      rw [calls, List.getElem?_cons_succ, List.getElem?_cons_succ, ih]
      congr 1
      funext d
      apply answer_congr
      intro t
      rw [toList_call, List.take_succ_cons, List.flatMap_cons]
      simp only [List.mem_append, List.mem_eraseDups, or_assoc]

/-- **A graph is the ordered set of the triples that were handed over to it**, whatever the calls: it answers as the row
of the distinct triples in the order of their first occurrences, and each insertion answers whether its triple did not
occur before. -/
theorem shows_distinct_of_calls (cs : List Call) :
    (empty.calls cs).2.Shows (cs.flatMap Call.triples).eraseDups ∧
      (empty.calls cs).1 = cs.mapIdx fun i c => c.answer ((cs.take i).flatMap Call.triples) := by
  have hrow : (empty.calls cs).2.toList = (cs.flatMap Call.triples).eraseDups := toList_calls empty cs
  constructor
  · rw [← hrow]
    exact shows_toList _
  · apply List.ext_getElem?
    intro i
    rw [getElem?_calls, List.getElem?_mapIdx]
    rfl

end Graph
end ShapeBinding
