import Mathlib.Data.List.Induction
import Mathlib.Data.List.Nodup
import ShapeBinding.Graph
/-!
# What a graph says of a subject

A search answers with the triples that fit, in graph order.  So the objects of a subject under a predicate are a part of
the pairs that are said of the subject (`objects_eq_filter_predicateObjects`), and in the graph of a row of triples they
are the objects that the row has there, each at its first occurrence (`objects_ofList`).
-/
namespace ShapeBinding

/-! ## First occurrences -/

theorem eraseDups_append_singleton {α : Type} [DecidableEq α] (as : List α) (a : α) :
    (as ++ [a]).eraseDups = if a ∈ as then as.eraseDups else as.eraseDups ++ [a] := by
  rw [List.eraseDups_append]
  by_cases h : a ∈ as <;> simp [h, List.removeAll, List.eraseDups_cons]

theorem nodup_eraseDups {α : Type} [DecidableEq α] (as : List α) : as.eraseDups.Nodup := by
  induction as using List.reverseRecOn with
  | nil => exact .nil
  | append_singleton as a ih =>
    rw [eraseDups_append_singleton]
    split
    · exact ih
    · rename_i h
      rw [List.nodup_append]
      refine ⟨ih, List.pairwise_singleton _ _, fun x hx y hy hxy => h ?_⟩
      rw [← List.mem_singleton.1 hy, ← hxy]
      exact List.mem_eraseDups.1 hx

theorem eraseDups_of_nodup {α : Type} [DecidableEq α] {as : List α} (h : as.Nodup) : as.eraseDups = as := by
  induction as using List.reverseRecOn with
  | nil => rfl
  | append_singleton as a ih =>
    rw [List.nodup_append] at h
    rw [eraseDups_append_singleton, if_neg fun ha => h.2.2 a ha a (List.mem_singleton_self a) rfl, ih h.1]

theorem eraseDups_sublist {α : Type} [DecidableEq α] (as : List α) : as.eraseDups.Sublist as := by
  induction as using List.reverseRecOn with
  | nil => exact .slnil
  | append_singleton as a ih =>
    rw [eraseDups_append_singleton]
    split
    · exact ih.trans (List.sublist_append_left ..)
    · exact ih.append_right [a]

theorem nodup_of_length_eraseDups {α : Type} [DecidableEq α] {as : List α} (h : as.eraseDups.length = as.length) :
    as.Nodup := by
  rw [← (eraseDups_sublist as).eq_of_length h]
  exact nodup_eraseDups as

theorem eraseDups_append_of_subset {α : Type} [DecidableEq α] {as bs : List α} (h : bs ⊆ as) :
    (as ++ bs).eraseDups = as.eraseDups := by
  induction bs using List.reverseRecOn with
  | nil => rw [List.append_nil]
  | append_singleton bs b ih =>
    rw [List.append_subset] at h
    rw [← List.append_assoc, eraseDups_append_singleton, ih h.1]
    exact if_pos (List.mem_append_left _ (h.2 (List.mem_singleton_self b)))

/-! ### Rows that trace a list -/

/-- A row traces a list if it meets new elements only in the order of the list: where the elements met before are the
first ones of the list, so are they after the row. -/
def Traces {α : Type} [DecidableEq α] (target row : List α) : Prop :=
  ∀ (before : List α) (k : Nat), before.eraseDups = (target.take k).eraseDups →
    ∃ k', k ≤ k' ∧ (before ++ row).eraseDups = (target.take k').eraseDups

namespace Traces

variable {α : Type} [DecidableEq α] {target : List α}

theorem nil : Traces target [] := fun before k h => ⟨k, Nat.le_refl k, by rw [List.append_nil, h]⟩

theorem append {row row' : List α} (h : Traces target row) (h' : Traces target row') : Traces target (row ++ row') := by
  intro before k hk
  obtain ⟨k₁, hk₁, h₁⟩ := h before k hk
  obtain ⟨k₂, hk₂, h₂⟩ := h' (before ++ row) k₁ h₁
  exact ⟨k₂, Nat.le_trans hk₁ hk₂, by rw [← List.append_assoc, h₂]⟩

theorem step {first rest before : List α} {a : α} {k : Nat} (htarget : target = first ++ a :: rest)
    (hk : first.length ≤ k) (h : before.eraseDups = (target.take k).eraseDups) :
    ∃ k', k ≤ k' ∧ first.length + 1 ≤ k' ∧ (before ++ [a]).eraseDups = (target.take k').eraseDups := by
  have hmem : a ∈ before ↔ a ∈ target.take k := by rw [← List.mem_eraseDups, h, List.mem_eraseDups]
  have htake : target.take (first.length + 1) = target.take first.length ++ [a] := by
    rw [htarget, List.take_append_length, List.take_length_add_append]
    rfl
  rcases Nat.lt_or_eq_of_le hk with hlt | rfl
  · have ha : a ∈ target.take k := by
      refine List.take_subset_take_left target hlt ?_
      rw [Nat.succ_eq_add_one, htake]
      exact List.mem_append_right _ (List.mem_singleton_self a)
    refine ⟨k, Nat.le_refl k, hlt, ?_⟩
    rw [eraseDups_append_singleton, if_pos (hmem.2 ha), h]
  · refine ⟨first.length + 1, Nat.le_succ _, Nat.le_refl _, ?_⟩
    rw [htake, eraseDups_append_singleton, eraseDups_append_singleton, h]
    simp only [hmem]

/-- **A row that traces a list and meets all of it** has the first occurrences of the list. -/
theorem eraseDups_eq {row : List α} (h : Traces target row) (hsub : target ⊆ row) :
    row.eraseDups = target.eraseDups := by
  obtain ⟨k, -, hk⟩ := h [] 0 (by simp)
  rw [List.nil_append] at hk
  rw [hk]
  conv_rhs => rw [← List.take_append_drop k target]
  refine (eraseDups_append_of_subset fun a ha => ?_).symm
  rw [← List.mem_eraseDups, ← hk, List.mem_eraseDups]
  exact hsub (List.mem_of_mem_drop ha)

end Traces

/-! ## Objects in a row of triples -/

/-- The objects that a row of triples has under a subject and a predicate. -/
def objectsIn (ts : List Triple) (subject predicate : Term) : List Term :=
  (ts.filter fun t => t.subject = subject ∧ t.predicate = predicate).map (·.object)

@[simp] theorem objectsIn_nil (subject predicate : Term) : objectsIn [] subject predicate = [] := rfl

theorem objectsIn_cons (t : Triple) (ts : List Triple) (subject predicate : Term) :
    objectsIn (t :: ts) subject predicate =
      if t.subject = subject ∧ t.predicate = predicate then t.object :: objectsIn ts subject predicate
      else objectsIn ts subject predicate := by
  unfold objectsIn
  by_cases h : t.subject = subject ∧ t.predicate = predicate <;> simp [h]

theorem objectsIn_append (ts us : List Triple) (subject predicate : Term) :
    objectsIn (ts ++ us) subject predicate = objectsIn ts subject predicate ++ objectsIn us subject predicate := by
  simp [objectsIn]

theorem mem_objectsIn {ts : List Triple} {subject predicate object : Term} :
    object ∈ objectsIn ts subject predicate ↔ ⟨subject, predicate, object⟩ ∈ ts := by
  simp only [objectsIn, List.mem_map, List.mem_filter, decide_eq_true_eq]
  constructor
  · rintro ⟨t, ⟨ht, rfl, rfl⟩, rfl⟩
    exact ht
  · intro h
    exact ⟨_, ⟨h, rfl, rfl⟩, rfl⟩

theorem nodup_objectsIn {ts : List Triple} (h : ts.Nodup) (subject predicate : Term) :
    (objectsIn ts subject predicate).Nodup := by
  refine List.Nodup.map_on ?_ (h.filter _)
  intro t ht u hu hobject
  obtain ⟨_, hs, hp⟩ : t ∈ ts ∧ t.subject = subject ∧ t.predicate = predicate := by simpa using List.mem_filter.1 ht
  obtain ⟨_, hs', hp'⟩ : u ∈ ts ∧ u.subject = subject ∧ u.predicate = predicate := by simpa using List.mem_filter.1 hu
  cases t; cases u
  simp_all

theorem objectsIn_eraseDups (ts : List Triple) (subject predicate : Term) :
    objectsIn ts.eraseDups subject predicate = (objectsIn ts subject predicate).eraseDups := by
  induction ts using List.reverseRecOn with
  | nil => rfl
  | append_singleton ts t ih =>
    rw [eraseDups_append_singleton, objectsIn_append, objectsIn_cons]
    by_cases hkey : t.subject = subject ∧ t.predicate = predicate
    · obtain ⟨rfl, rfl⟩ := hkey
      have hmem : t.object ∈ objectsIn ts t.subject t.predicate ↔ t ∈ ts := mem_objectsIn
      simp only [and_self, if_true, objectsIn_nil, eraseDups_append_singleton]
      by_cases ht : t ∈ ts
      · rw [if_pos ht, if_pos (hmem.2 ht), ih]
      · rw [if_neg ht, if_neg (mt hmem.1 ht), objectsIn_append, ih, objectsIn_cons]
        simp only [and_self, if_true, objectsIn_nil]
    · rw [if_neg hkey, objectsIn_nil, List.append_nil, ← ih]
      split
      · rfl
      · rw [objectsIn_append, objectsIn_cons, if_neg hkey, objectsIn_nil, List.append_nil]

/-! ## Pairs in a row of triples -/

/-- What a row of triples says of a subject: predicates with objects. -/
def pairsIn (ts : List Triple) (subject : Term) : List (Term × Term) :=
  (ts.filter fun t => t.subject = subject).map fun t => (t.predicate, t.object)

@[simp] theorem pairsIn_nil (subject : Term) : pairsIn [] subject = [] := rfl

theorem pairsIn_cons (t : Triple) (ts : List Triple) (subject : Term) : pairsIn (t :: ts) subject =
    if t.subject = subject then (t.predicate, t.object) :: pairsIn ts subject else pairsIn ts subject := by
  unfold pairsIn
  by_cases h : t.subject = subject <;> simp [h]

theorem pairsIn_append (ts us : List Triple) (subject : Term) :
    pairsIn (ts ++ us) subject = pairsIn ts subject ++ pairsIn us subject := by
  simp [pairsIn]

theorem mem_pairsIn {ts : List Triple} {subject predicate object : Term} :
    (predicate, object) ∈ pairsIn ts subject ↔ ⟨subject, predicate, object⟩ ∈ ts := by
  simp only [pairsIn, List.mem_map, List.mem_filter, decide_eq_true_eq, Prod.mk.injEq]
  constructor
  · rintro ⟨⟨_, _, _⟩, ⟨ht, rfl⟩, rfl, rfl⟩
    exact ht
  · intro ht
    exact ⟨_, ⟨ht, rfl⟩, rfl, rfl⟩

theorem nodup_pairsIn {ts : List Triple} (h : ts.Nodup) (subject : Term) : (pairsIn ts subject).Nodup := by
  refine List.Nodup.map_on ?_ (h.filter _)
  intro t ht u hu hpair
  obtain ⟨_, ht⟩ : t ∈ ts ∧ t.subject = subject := by simpa using List.mem_filter.1 ht
  obtain ⟨_, hu⟩ : u ∈ ts ∧ u.subject = subject := by simpa using List.mem_filter.1 hu
  cases t; cases u
  simp_all

/-- The triples that say given pairs of a subject. -/
def triplesOf (subject : Term) (pairs : List (Term × Term)) : List Triple := pairs.map fun p => ⟨subject, p.1, p.2⟩

theorem triplesOf_append (subject : Term) (ps qs : List (Term × Term)) :
    triplesOf subject (ps ++ qs) = triplesOf subject ps ++ triplesOf subject qs := List.map_append

theorem pairsIn_triplesOf (x y : Term) (pairs : List (Term × Term)) :
    pairsIn (triplesOf x pairs) y = if x = y then pairs else [] := by
  by_cases h : x = y <;> simp [pairsIn, triplesOf, h, List.filter_map, Function.comp_def]

theorem objectsIn_eq_filter_pairsIn (ts : List Triple) (subject predicate : Term) :
    objectsIn ts subject predicate = ((pairsIn ts subject).filter (·.1 = predicate)).map (·.2) := by
  simp only [objectsIn, pairsIn, List.filter_map, List.map_map, List.filter_filter]
  congr 1
  exact List.filter_congr fun t _ => by simp [Bool.and_comm]

theorem pairsIn_eraseDups {ts : List Triple} {subject : Term} (h : (pairsIn ts subject).Nodup) :
    pairsIn ts.eraseDups subject = pairsIn ts subject := by
  induction ts using List.reverseRecOn with
  | nil => rfl
  | append_singleton ts t ih =>
    rw [pairsIn_append, List.nodup_append] at h
    have ih := ih h.1
    rw [eraseDups_append_singleton, pairsIn_append, pairsIn_cons, pairsIn_nil]
    by_cases ht : t ∈ ts
    · have hsubject : t.subject ≠ subject := by
        intro hsubject
        have hmem : (t.predicate, t.object) ∈ pairsIn ts subject := mem_pairsIn.2 (hsubject ▸ ht)
        exact h.2.2 _ hmem _ (by simp [pairsIn, hsubject]) rfl
      rw [if_pos ht, if_neg hsubject, List.append_nil, ih]
    · rw [if_neg ht, pairsIn_append, pairsIn_cons, pairsIn_nil, ih]

namespace Graph

/-! ## Objects, subjects and pairs of a graph -/

theorem nodup_toList (g : Graph) : g.toList.Nodup := g.nodup

theorem objects_eq_objectsIn (g : Graph) (subject predicate : Term) :
    g.objects subject predicate = objectsIn g.toList subject predicate := by
  rw [objects, find_eq_filter, objectsIn]
  congr 1
  exact List.filter_congr fun t _ => by simp [Pattern.fits]

theorem predicateObjects_eq_pairsIn (g : Graph) (subject : Term) :
    g.predicateObjects subject = pairsIn g.toList subject := by
  rw [predicateObjects, find_eq_filter, pairsIn]
  congr 1
  exact List.filter_congr fun t _ => by simp [Pattern.fits]

theorem mem_objects {g : Graph} {subject predicate object : Term} :
    object ∈ g.objects subject predicate ↔ ⟨subject, predicate, object⟩ ∈ g.toList := by
  rw [objects_eq_objectsIn, mem_objectsIn]

theorem nodup_objects (g : Graph) (subject predicate : Term) : (g.objects subject predicate).Nodup := by
  rw [objects_eq_objectsIn]
  exact nodup_objectsIn g.nodup_toList subject predicate

theorem mem_subjects {g : Graph} {subject predicate object : Term} :
    subject ∈ g.subjects predicate object ↔ ⟨subject, predicate, object⟩ ∈ g.toList := by
  simp only [subjects, List.mem_eraseDups, List.mem_map, find_eq_filter, List.mem_filter, Pattern.fits,
    Option.all_none, Option.all_some, Bool.true_and, Bool.and_eq_true, decide_eq_true_eq]
  constructor
  · rintro ⟨t, ⟨ht, rfl, rfl⟩, rfl⟩
    exact ht
  · intro h
    exact ⟨_, ⟨h, rfl, rfl⟩, rfl⟩

theorem nodup_subjects (g : Graph) (predicate object : Term) : (g.subjects predicate object).Nodup :=
  nodup_eraseDups _

theorem objects_eq_filter_predicateObjects (g : Graph) (subject predicate : Term) :
    g.objects subject predicate = ((g.predicateObjects subject).filter (·.1 = predicate)).map (·.2) := by
  rw [objects_eq_objectsIn, predicateObjects_eq_pairsIn, objectsIn_eq_filter_pairsIn]

theorem objects_congr {g g' : Graph} {subject : Term} (h : g.predicateObjects subject = g'.predicateObjects subject)
    (predicate : Term) : g.objects subject predicate = g'.objects subject predicate := by
  rw [objects_eq_filter_predicateObjects, objects_eq_filter_predicateObjects, h]

theorem mem_predicateObjects {g : Graph} {subject predicate object : Term} :
    (predicate, object) ∈ g.predicateObjects subject ↔ ⟨subject, predicate, object⟩ ∈ g.toList := by
  rw [← mem_objects, objects_eq_filter_predicateObjects]
  simp

theorem nodup_predicateObjects (g : Graph) (subject : Term) : (g.predicateObjects subject).Nodup := by
  rw [predicateObjects_eq_pairsIn]
  exact nodup_pairsIn g.nodup_toList subject

/-- Graphs that hold the same triples of a subject say the same pairs of it, each perhaps in an order of its own. -/
theorem predicateObjects_perm {g g' : Graph} {subject : Term}
    (h : ∀ predicate object, ⟨subject, predicate, object⟩ ∈ g.toList ↔ ⟨subject, predicate, object⟩ ∈ g'.toList) :
    (g.predicateObjects subject).Perm (g'.predicateObjects subject) := by
  refine (List.perm_ext_iff_of_nodup (g.nodup_predicateObjects subject) (g'.nodup_predicateObjects subject)).2 ?_
  intro (predicate, object)
  rw [mem_predicateObjects, mem_predicateObjects, h]

/-! ## The graph of a row of triples -/

/-- **Inserting a row adds what is new of it**, each triple once. -/
theorem toList_insertAll (g : Graph) (ts : List Triple) : (g.insertAll ts).toList = (g.toList ++ ts).eraseDups := by
  induction ts using List.reverseRecOn with
  | nil => rw [List.append_nil, eraseDups_of_nodup g.nodup_toList, insertAll, List.foldl_nil]
  | append_singleton ts t ih =>
    have hstep : g.insertAll (ts ++ [t]) = (g.insertAll ts).insert t := List.foldl_concat ..
    rw [hstep, toList_insert, ih, ← List.append_assoc, eraseDups_append_singleton]
    simp only [List.mem_eraseDups]

theorem toList_ofList (ts : List Triple) : (ofList ts).toList = ts.eraseDups := toList_insertAll empty ts

theorem mem_toList_ofList {ts : List Triple} {t : Triple} : t ∈ (ofList ts).toList ↔ t ∈ ts := by
  rw [toList_ofList, List.mem_eraseDups]

/-- **The graph of a row holds the row's objects once each**, in the order of their first occurrences. -/
theorem objects_ofList (ts : List Triple) (subject predicate : Term) :
    (ofList ts).objects subject predicate = (objectsIn ts subject predicate).eraseDups := by
  rw [objects_eq_objectsIn, toList_ofList, objectsIn_eraseDups]

/-- **The graph of a row says of a subject what the row says**, if the row says nothing of it twice. -/
theorem predicateObjects_ofList {ts : List Triple} {subject : Term} (h : (pairsIn ts subject).Nodup) :
    (ofList ts).predicateObjects subject = pairsIn ts subject := by
  rw [predicateObjects_eq_pairsIn, toList_ofList, pairsIn_eraseDups h]

end Graph
end ShapeBinding
