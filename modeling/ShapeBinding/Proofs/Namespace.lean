import Mathlib.Data.List.Nodup
import ShapeBinding.Namespace
import ShapeBinding.Proofs.Accepted
import ShapeBinding.Proofs.Catalog
/-!
# Tables as sets of pairs

A table is known by the pairs that it holds (`Namespaces.ext_pairs`), since their order and the labels' being distinct
are part of the type; the order is the one that a sort gives (`Namespace.eq_mergeSort_of_perm`).  An insertion adds its
pair to that set, unless the label is bound to another base (`exists_insert_iff`, `mem_pairs_of_insert`), so a run of
insertions is accepted just when no label stands with two bases (`exists_insertAll_iff`), and neither the order of the
pairs nor a repetition matters.  An insertion that is refused leaves the table as it was (`atomic_insertCall`), so where
a caller goes on after it, each label is bound to the base that came first (`base?_foldl_insertOrKeep`).
-/
namespace ShapeBinding

/-- No label stands with two different bases. -/
def Unambiguous (pairs : List (String × String)) : Prop :=
  ∀ label base base', (label, base) ∈ pairs → (label, base') ∈ pairs → base = base'

theorem Unambiguous.congr {pairs pairs' : List (String × String)} (h : ∀ p, p ∈ pairs ↔ p ∈ pairs') :
    Unambiguous pairs ↔ Unambiguous pairs' := by
  simp only [Unambiguous, h]

theorem Namespace.Precedes.asymm {a b : Namespace} (h : a.Precedes b) : ¬ b.Precedes a := by
  intro hba
  rcases h.trans hba with hlt | ⟨-, hlt⟩
  · exact Nat.lt_irrefl _ hlt
  · exact String.lt_irrefl _ hlt

/-! ## Sorting -/

namespace Namespace

variable {a b : Namespace} {es es' : List Namespace}

/-- How two entries are compared: by the lengths of their bases, from the longest down, and then by their labels. -/
def order (a b : Namespace) : Ordering :=
  (compare b.base.utf8ByteSize a.base.utf8ByteSize).then (compare a.label b.label)

instance : Std.TransCmp order :=
  inferInstanceAs (Std.TransCmp (compareLex (fun a b => compareOn (fun e : Namespace => e.base.utf8ByteSize) b a)
    (compareOn Namespace.label)))

theorem order_eq_lt_iff : order a b = .lt ↔ a.Precedes b := by
  have hlabel : compare a.label b.label = .lt ↔ a.label < b.label := compareOfLessAndEq_eq_lt
  rw [order, Ordering.then_eq_lt, Nat.compare_eq_lt, Nat.compare_eq_eq, hlabel, Precedes,
    eq_comm (a := b.base.utf8ByteSize)]

/-- **Entries in the order of preference are what a stable sort gives**, whichever order they come in. -/
theorem eq_mergeSort_of_perm (h : es.Pairwise Precedes) (hperm : es.Perm es') :
    es = es'.mergeSort fun a b => (order a b).isLE := by
  have hlt : es.Pairwise fun a b => order a b = .lt := h.imp order_eq_lt_iff.2
  have hordered : es.Pairwise fun a b => (order a b).isLE = true := hlt.imp fun hab => by
    rw [hab]
    rfl
  have hsorted : (es'.mergeSort fun a b => (order a b).isLE).Pairwise fun a b => (order a b).isLE = true := by
    refine List.pairwise_mergeSort (fun a b c => Std.TransCmp.isLE_trans) (fun a b => ?_) es'
    have hswap : order b a = (order a b).swap := Std.OrientedCmp.eq_swap
    rw [hswap]
    cases order a b <;> rfl
  -- entries that compare as equal are one entry, so the sort has no choice
  have hequal : ∀ ⦃a⦄, a ∈ es → ∀ ⦃b⦄, b ∈ es → order a b = .eq → a = b := by
    refine fun a ha b hb => List.Pairwise.forall_of_forall_of_flip (R := fun a b => order a b = .eq → a = b)
      (fun _ _ _ => rfl) (hlt.imp fun hab heq => ?_) (hlt.imp fun hab heq => ?_) ha hb
    · rw [hab] at heq
      cases heq
    · rw [Std.OrientedCmp.eq_comm.1 heq] at hab
      cases hab
  have hperm' := hperm.trans (List.mergeSort_perm es' fun a b => (order a b).isLE).symm
  refine hperm'.eq_of_pairwise (fun a b ha hb hab hba => hequal ha (hperm'.mem_iff.2 hb) ?_) hordered hsorted
  exact Std.OrientedCmp.isLE_antisymm hab hba

end Namespace

namespace Namespaces

variable {t t' : Namespaces} {label base : String} {ps ps' : List (String × String)}

/-- **A new entry is put at the end, and then all are sorted.** -/
theorem entries_add (n : Namespace) (h : t.base? n.label = none) :
    (t.add n h).entries = (t.entries ++ [n]).mergeSort fun a b => (Namespace.order a b).isLE :=
  Namespace.eq_mergeSort_of_perm (t.add n h).ordered
    ((Namespace.insertSorted_perm n t.entries).trans (List.perm_append_singleton n t.entries).symm)

/-- **A table of given entries has them sorted.** -/
theorem entries_ofEntries (es : List Namespace) (h : (es.map (·.label)).Nodup) :
    (ofEntries es h).entries = es.mergeSort fun a b => (Namespace.order a b).isLE :=
  Namespace.eq_mergeSort_of_perm (ofEntries es h).ordered (Namespace.sorted_perm es)

/-! ## The pairs of a table -/

/-- The labels with their bases, in the order of preference. -/
def pairs (t : Namespaces) : List (String × String) := t.entries.map fun e => (e.label, e.base)

theorem mem_pairs : (label, base) ∈ t.pairs ↔ ⟨label, base⟩ ∈ t.entries := by
  unfold Namespaces.pairs
  rw [List.mem_map]
  constructor
  · rintro ⟨e, he, heq⟩
    obtain ⟨rfl, rfl⟩ := Prod.mk.inj heq
    exact he
  · intro he
    exact ⟨_, he, rfl⟩

@[simp] theorem pairs_empty : empty.pairs = [] := rfl

/-- **A label has the base that it is paired with.** -/
theorem base?_eq_some_iff : t.base? label = some base ↔ (label, base) ∈ t.pairs := by
  have hfind : ∀ e, t.entries.find? (·.label = label) = some e ↔ e ∈ t.entries ∧ e.label = label := fun e =>
    find?_key_eq_some_iff t.labels_nodup
  rw [mem_pairs, base?, Option.map_eq_some_iff]
  simp only [hfind]
  constructor
  · rintro ⟨e, ⟨he, rfl⟩, rfl⟩
    exact he
  · intro he
    exact ⟨_, ⟨he, rfl⟩, rfl⟩

theorem unambiguous_pairs (t : Namespaces) : Unambiguous t.pairs := by
  intro label base base' h h'
  rw [← base?_eq_some_iff] at h h'
  exact Option.some.inj (h.symm.trans h')

/-- **A table is known by its pairs.**  The order of preference leaves no choice in how to arrange them. -/
theorem ext_pairs (h : ∀ p, p ∈ t.pairs ↔ p ∈ t'.pairs) : t = t' := by
  have hmem : ∀ e, e ∈ t.entries ↔ e ∈ t'.entries := by
    intro e
    rw [← mem_pairs, ← mem_pairs]
    exact h (e.label, e.base)
  have hperm : t.entries.Perm t'.entries :=
    (List.perm_ext_iff_of_nodup (List.Nodup.of_map _ t.labels_nodup) (List.Nodup.of_map _ t'.labels_nodup)).2 hmem
  have hentries : t.entries = t'.entries :=
    hperm.eq_of_pairwise (fun _ _ _ _ hab hba => absurd hba hab.asymm) t.ordered t'.ordered
  obtain ⟨entries, ordered, nodup⟩ := t
  obtain ⟨entries', ordered', nodup'⟩ := t'
  simp only at hentries
  subst hentries
  rfl

/-! ## One insertion -/

/-- **What the call that binds a label does**: it leaves the table as it is if it finds the label there, and adds an
entry otherwise. -/
theorem runOn_insertCall (t : Namespaces) (label base : String) : (insertCall label base).runOn t =
    match h : t.base? label with
    | some existing => (if existing = base then .ok () else .error ⟨label, existing, base⟩, t)
    | none => (.ok (), t.add ⟨label, base⟩ h) := by
  -- the first step gives the table itself
  have hread : (insertCall label base).runOn t = Call.runOn (
    match h : t.base? label with
    | some existing => if existing = base then pure () else throw ⟨label, existing, base⟩
    | none => set (t.add ⟨label, base⟩ h)) t := rfl
  rw [hread]
  split
  · rename_i existing _
    by_cases heq : existing = base
    · rw [if_pos heq, if_pos heq]
      rfl
    · rw [if_neg heq, if_neg heq]
      rfl
  · rfl

/-- **A conflict leaves the table as it was.** -/
theorem atomic_insertCall (label base : String) : (insertCall label base).Atomic := by
  intro t t' c h
  rw [runOn_insertCall] at h
  split at h
  · exact (Prod.mk.inj h).2.symm
  · cases h

theorem insert_of_base?_eq_some {existing : String} (h : t.base? label = some existing) :
    t.insert label base = if existing = base then .ok t else .error ⟨label, existing, base⟩ := by
  have hrun : (insertCall label base).runOn t =
      (if existing = base then .ok () else .error ⟨label, existing, base⟩, t) := by
    rw [runOn_insertCall]
    split
    · rename_i existing' hexisting
      rw [Option.some.inj (hexisting.symm.trans h)]
    · rename_i hnone
      cases hnone.symm.trans h
  rw [insert, Call.result, hrun]
  by_cases heq : existing = base
  · rw [if_pos heq, if_pos heq]
  · rw [if_neg heq, if_neg heq]

theorem insert_of_base?_eq_none (h : t.base? label = none) : t.insert label base = .ok (t.add ⟨label, base⟩ h) := by
  rw [insert, Call.result_eq_ok_iff, runOn_insertCall]
  split
  · rename_i hsome
    cases hsome.symm.trans h
  · rfl

theorem insert_of_mem (h : (label, base) ∈ t.pairs) : t.insert label base = .ok t := by
  rw [insert_of_base?_eq_some (base?_eq_some_iff.2 h), if_pos rfl]

theorem insert_of_other {existing : String} (h : (label, existing) ∈ t.pairs) (hne : existing ≠ base) :
    t.insert label base = .error ⟨label, existing, base⟩ := by
  rw [insert_of_base?_eq_some (base?_eq_some_iff.2 h), if_neg hne]

theorem mem_pairs_add {n : Namespace} {h : t.base? n.label = none} (p : String × String) :
    p ∈ (t.add n h).pairs ↔ p ∈ t.pairs ∨ p = (n.label, n.base) := by
  obtain ⟨l, b⟩ := p
  rw [mem_pairs, add, Namespace.mem_insertSorted, mem_pairs, Prod.mk.injEq, or_comm]
  cases n
  rw [Namespace.mk.injEq]

/-- What an insertion does: it finds its pair there, or another base, or no base and adds the pair. -/
theorem insert_cases (t : Namespaces) (label base : String) :
    ((label, base) ∈ t.pairs ∧ t.insert label base = .ok t) ∨
      (∃ existing, (label, existing) ∈ t.pairs ∧ existing ≠ base ∧
        t.insert label base = .error ⟨label, existing, base⟩) ∨
      (t.base? label = none ∧ ∃ t', t.insert label base = .ok t' ∧
        ∀ p, p ∈ t'.pairs ↔ p ∈ t.pairs ∨ p = (label, base)) := by
  cases hbase : t.base? label with
  | none => exact .inr (.inr ⟨rfl, _, insert_of_base?_eq_none hbase, mem_pairs_add⟩)
  | some existing =>
    have hmem := base?_eq_some_iff.1 hbase
    by_cases heq : existing = base
    · subst heq
      exact .inl ⟨hmem, insert_of_mem hmem⟩
    · exact .inr (.inl ⟨existing, hmem, heq, insert_of_other hmem heq⟩)

theorem mem_pairs_of_insert (h : t.insert label base = .ok t') (p : String × String) :
    p ∈ t'.pairs ↔ p ∈ t.pairs ∨ p = (label, base) := by
  rcases insert_cases t label base with ⟨hmem, hinsert⟩ | ⟨existing, -, -, hinsert⟩ | ⟨-, t₁, hinsert, hpairs⟩
  · cases hinsert.symm.trans h
    constructor
    · exact .inl
    · rintro (hp | rfl)
      · exact hp
      · exact hmem
  · cases hinsert.symm.trans h
  · cases hinsert.symm.trans h
    exact hpairs p

theorem exists_insert_iff :
    (∃ t', t.insert label base = .ok t') ↔ ∀ existing, (label, existing) ∈ t.pairs → existing = base := by
  constructor
  · rintro ⟨t', h⟩ existing hmem
    by_cases heq : existing = base
    · exact heq
    · cases (insert_of_other hmem heq).symm.trans h
  · intro h
    rcases insert_cases t label base with ⟨-, hinsert⟩ | ⟨existing, hmem, hne, -⟩ | ⟨-, t', hinsert, -⟩
    · exact ⟨t, hinsert⟩
    · exact absurd (h existing hmem) hne
    · exact ⟨t', hinsert⟩

/-- **A table stays as it is just when it holds the pair already.** -/
theorem insert_eq_ok_self_iff : t.insert label base = .ok t ↔ (label, base) ∈ t.pairs := by
  constructor
  · intro h
    exact (mem_pairs_of_insert h _).2 (.inr rfl)
  · exact insert_of_mem

/-- **An insertion is refused just when its label is bound to another base.** -/
theorem insert_eq_error_iff {c : LabelConflict} : t.insert label base = .error c ↔
    c.label = label ∧ c.base = base ∧ (label, c.existing) ∈ t.pairs ∧ c.existing ≠ base := by
  constructor
  · intro h
    rcases insert_cases t label base with ⟨-, hinsert⟩ | ⟨existing, hmem, hne, hinsert⟩ | ⟨-, t', hinsert, -⟩
    · cases hinsert.symm.trans h
    · cases hinsert.symm.trans h
      exact ⟨rfl, rfl, hmem, hne⟩
    · cases hinsert.symm.trans h
  · rintro ⟨rfl, rfl, hmem, hne⟩
    exact insert_of_other hmem hne

/-! ## Runs of insertions -/

theorem insertAll_cons_eq_ok_iff {p : String × String} : t.insertAll (p :: ps) = .ok t' ↔
    ∃ t₁, t.insert p.1 p.2 = .ok t₁ ∧ t₁.insertAll ps = .ok t' := by
  unfold insertAll
  rw [List.foldlM_cons, bind_eq_ok_iff]

/-- **An accepted run adds its pairs**, and nothing else. -/
theorem mem_pairs_of_insertAll (h : t.insertAll ps = .ok t') (p : String × String) :
    p ∈ t'.pairs ↔ p ∈ t.pairs ++ ps := by
  induction ps generalizing t with
  | nil =>
    cases h
    rw [List.append_nil]
  | cons q qs ih =>
    obtain ⟨t₁, hinsert, h⟩ := insertAll_cons_eq_ok_iff.1 h
    rw [ih h, List.mem_append, List.mem_append, mem_pairs_of_insert hinsert, List.mem_cons, or_assoc]

/-- **A run is accepted just when no label stands with two bases**, in the table and the pairs together. -/
theorem exists_insertAll_iff : (∃ t', t.insertAll ps = .ok t') ↔ Unambiguous (t.pairs ++ ps) := by
  induction ps generalizing t with
  | nil =>
    rw [List.append_nil]
    exact ⟨fun _ => t.unambiguous_pairs, fun _ => ⟨t, rfl⟩⟩
  | cons q qs ih =>
    have hset : ∀ {t₁}, t.insert q.1 q.2 = .ok t₁ → ∀ p, p ∈ t₁.pairs ++ qs ↔ p ∈ t.pairs ++ q :: qs := by
      intro t₁ hinsert p
      rw [List.mem_append, List.mem_append, mem_pairs_of_insert hinsert, List.mem_cons, or_assoc]
    simp only [insertAll_cons_eq_ok_iff]
    constructor
    · rintro ⟨t', t₁, hinsert, h⟩
      exact (Unambiguous.congr (hset hinsert)).1 (ih.1 ⟨t', h⟩)
    · intro h
      have hbase : ∀ existing, (q.1, existing) ∈ t.pairs → existing = q.2 := fun existing hmem =>
        h q.1 existing q.2 (List.mem_append_left _ hmem) (List.mem_append_right _ (List.mem_cons_self ..))
      obtain ⟨t₁, hinsert⟩ := exists_insert_iff.2 hbase
      obtain ⟨t', h'⟩ := ih.2 ((Unambiguous.congr (hset hinsert)).2 h)
      exact ⟨t', t₁, hinsert, h'⟩

/-- **What a run gives**: the table of its pairs and those that were there, if they bind no label twice. -/
theorem insertAll_eq_ok_iff : t.insertAll ps = .ok t' ↔
    Unambiguous (t.pairs ++ ps) ∧ ∀ p, p ∈ t'.pairs ↔ p ∈ t.pairs ++ ps := by
  constructor
  · intro h
    exact ⟨exists_insertAll_iff.1 ⟨t', h⟩, mem_pairs_of_insertAll h⟩
  · rintro ⟨hunambiguous, hpairs⟩
    obtain ⟨t₁, h⟩ := exists_insertAll_iff.2 hunambiguous
    have heq : t₁ = t' := ext_pairs fun p => by rw [mem_pairs_of_insertAll h, hpairs]
    exact heq ▸ h

/-- **A run of insertions is a matter of the set of pairs**: their order and repetitions do not show. -/
theorem insertAll_congr (h : ∀ p, p ∈ ps ↔ p ∈ ps') : t.insertAll ps = .ok t' ↔ t.insertAll ps' = .ok t' := by
  have hset : ∀ p, p ∈ t.pairs ++ ps ↔ p ∈ t.pairs ++ ps' := by
    intro p
    rw [List.mem_append, List.mem_append, h]
  rw [insertAll_eq_ok_iff, insertAll_eq_ok_iff, Unambiguous.congr hset]
  simp only [hset]

/-- **Every table is one that its own pairs give.** -/
theorem ofPairs_pairs (t : Namespaces) : ofPairs t.pairs = .ok t := by
  apply insertAll_eq_ok_iff.2
  rw [pairs_empty, List.nil_append]
  exact ⟨t.unambiguous_pairs, fun p => Iff.rfl⟩

/-! ## Runs that go on after a refusal -/

/-- The table after an insertion, be it accepted or refused. -/
def insertOrKeep (t : Namespaces) (p : String × String) : Namespaces := (insertCall p.1 p.2).after t

theorem insertOrKeep_of_ok {p : String × String} (h : t.insert p.1 p.2 = .ok t') : t.insertOrKeep p = t' :=
  Call.after_of_result_eq_ok h

theorem insertOrKeep_of_error {p : String × String} {c : LabelConflict} (h : t.insert p.1 p.2 = .error c) :
    t.insertOrKeep p = t :=
  (atomic_insertCall p.1 p.2).after_of_result_eq_error h

theorem base?_of_pairs (h : ∀ p, p ∈ t'.pairs ↔ p ∈ t.pairs ∨ p = (label, base)) (hnew : t.base? label = none)
    (l : String) : t'.base? l = if l = label then some base else t.base? l := by
  apply Option.ext
  intro b
  rw [base?_eq_some_iff, h, ← base?_eq_some_iff, Prod.mk.injEq]
  by_cases hl : l = label
  · subst hl
    simp [hnew, eq_comm]
  · simp [hl]

/-- **A label is bound only if it has no base yet.** -/
theorem base?_insertOrKeep (t : Namespaces) (p : String × String) (label : String) :
    (t.insertOrKeep p).base? label = (t.base? label).or (if label = p.1 then some p.2 else none) := by
  have hkeep : ∀ {existing : String}, (p.1, existing) ∈ t.pairs →
      t.base? label = (t.base? label).or (if label = p.1 then some p.2 else none) := by
    intro existing hmem
    by_cases hl : label = p.1
    · rw [hl, base?_eq_some_iff.2 hmem, Option.some_or]
    · rw [if_neg hl, Option.or_none]
  rcases insert_cases t p.1 p.2 with ⟨hmem, hinsert⟩ | ⟨existing, hmem, -, hinsert⟩ | ⟨hnew, t', hinsert, hpairs⟩
  · rw [insertOrKeep_of_ok hinsert]
    exact hkeep hmem
  · rw [insertOrKeep_of_error hinsert]
    exact hkeep hmem
  · rw [insertOrKeep_of_ok hinsert]
    by_cases hl : label = p.1
    · rw [hl, hnew, Option.none_or, if_pos rfl]
      exact (base?_of_pairs hpairs hnew _).trans (if_pos rfl)
    · rw [if_neg hl, Option.or_none]
      exact (base?_of_pairs hpairs hnew _).trans (if_neg hl)

/-- **After a run a label has the base that came first**, whichever insertions were refused. -/
theorem base?_foldl_insertOrKeep (t : Namespaces) (ps : List (String × String)) (label : String) :
    (ps.foldl insertOrKeep t).base? label = (t.base? label).or (ps.lookup label) := by
  induction ps generalizing t with
  | nil => rw [List.foldl_nil, List.lookup_nil, Option.or_none]
  | cons p ps ih =>
    rw [List.foldl_cons, ih, base?_insertOrKeep, List.lookup_cons, Option.or_assoc]
    by_cases hl : label = p.1
    · simp [hl]
    · have hne : (label == p.1) = false := by simpa using hl
      simp [hl, hne]

end Namespaces
end ShapeBinding
