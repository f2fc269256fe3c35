import Mathlib.Data.List.Range
import ShapeBinding.Proofs.Accepted
import ShapeBinding.Proofs.Sketch.Draft
/-!
# What the row of drafts says

The nodes of property shapes are numbered through.  If the labels that are drawn for them are distinct
(`DistinctLabels`), no two property shapes share one, and none is an IRI.  Hence the row of triples says of a draft's
subject what the draft says, with a link to each of its nodes, and of each node what its property's draft says
(`exists_describedIn`).  Only the subjects of drafts are typed (`subject_of_type_mem`).
-/
namespace ShapeBinding

open ShapesSketch (propertyNode)

/-! ## Nodes -/

/-- **The first labels of a supply are distinct.** -/
def DistinctLabels (fresh : Nat → String) (n : Nat) : Prop := ∀ i j, i < n → j < n → fresh i = fresh j → i = j

/-- As many nodes as it says, numbered from `k` on. -/
def nodesFrom (fresh : Nat → String) (k n : Nat) : List Term := (List.range' k n).map (propertyNode fresh)

variable {fresh : Nat → String} {x : Term} {j k m n : Nat}

theorem propertyNode_ne (h : DistinctLabels fresh m) (hj : j < m) (hk : k < m) (hne : j ≠ k) :
    propertyNode fresh j ≠ propertyNode fresh k := fun heq => hne (h j k hj hk (Term.blank.inj heq))

theorem nodesFrom_succ (k n : Nat) :
    nodesFrom fresh k (n + 1) = propertyNode fresh k :: nodesFrom fresh (k + 1) n := by
  simp [nodesFrom, List.range'_succ]

theorem mem_nodesFrom : x ∈ nodesFrom fresh k n ↔ ∃ j, (k ≤ j ∧ j < k + n) ∧ propertyNode fresh j = x := by
  simp only [nodesFrom, List.mem_map, List.mem_range'_1]

theorem nodup_nodesFrom (h : DistinctLabels fresh m) (hm : k + n ≤ m) : (nodesFrom fresh k n).Nodup := by
  refine List.Nodup.map_on (fun i hi j hj heq => ?_) (List.nodup_range' (s := k) (n := n))
  rw [List.mem_range'_1] at hi hj
  exact h i j (by omega) (by omega) (Term.blank.inj heq)

theorem propertyNode_notMem_nodesFrom (h : DistinctLabels fresh m) (hm : k + n ≤ m) (hj : j < m)
    (hout : j < k ∨ k + n ≤ j) : propertyNode fresh j ∉ nodesFrom fresh k n := fun hmem => by
  obtain ⟨i, hi, heq⟩ := mem_nodesFrom.1 hmem
  exact propertyNode_ne h (by omega) hj (by omega) heq

theorem iri_notMem_nodesFrom (iri : String) (k n : Nat) : .iri iri ∉ nodesFrom fresh k n := fun hmem => by
  obtain ⟨_, _, heq⟩ := mem_nodesFrom.1 hmem
  cases heq

theorem iri_ne_propertyNode (iri : String) (j : Nat) : Term.iri iri ≠ propertyNode fresh j := nofun

/-! ## Property shapes -/

theorem pairsIn_propertyTriples_subject (subject : String) : ∀ (k : Nat) (ds : List PropertyDraft),
    pairsIn (propertyTriples fresh (.iri subject) k ds) (.iri subject) =
      (nodesFrom fresh k ds.length).map fun node => (.iri Sh.property, node)
  | _, [] => rfl
  | k, d :: ds => by
    rw [propertyTriples, pairsIn_cons, if_pos rfl, pairsIn_append, pairsIn_triplesOf,
      if_neg (iri_ne_propertyNode subject k).symm, pairsIn_propertyTriples_subject subject (k + 1) ds, List.length_cons,
      nodesFrom_succ]
    rfl

theorem pairsIn_propertyTriples_eq_nil {subject : Term} (hsubject : subject ≠ x) :
    ∀ {k : Nat} {ds : List PropertyDraft}, x ∉ nodesFrom fresh k ds.length →
      pairsIn (propertyTriples fresh subject k ds) x = []
  | _, [], _ => rfl
  | k, d :: ds, hx => by
    rw [List.length_cons, nodesFrom_succ, List.mem_cons, not_or] at hx
    rw [propertyTriples, pairsIn_cons, if_neg hsubject, pairsIn_append, pairsIn_triplesOf, if_neg (Ne.symm hx.1),
      List.nil_append, pairsIn_propertyTriples_eq_nil hsubject hx.2]

/-- **The row says of each node what its property's draft says.** -/
theorem forall₂_propertyTriples (hlabels : DistinctLabels fresh m) (subject : String) :
    ∀ (k : Nat) (ds : List PropertyDraft), k + ds.length ≤ m →
      List.Forall₂ (fun node d => pairsIn (propertyTriples fresh (.iri subject) k ds) node = d.pairs)
        (nodesFrom fresh k ds.length) ds
  | _, [], _ => .nil
  | k, d :: ds, hm => by
    rw [List.length_cons] at hm
    have hne : ∀ j, Term.iri subject ≠ propertyNode fresh j := iri_ne_propertyNode subject
    rw [List.length_cons, nodesFrom_succ]
    refine .cons ?_ ?_
    · have hlater := propertyNode_notMem_nodesFrom hlabels (k := k + 1) (n := ds.length) (by omega)
        (show k < m by omega) (.inl (Nat.lt_succ_self k))
      rw [propertyTriples, pairsIn_cons, if_neg (hne k), pairsIn_append, pairsIn_triplesOf, if_pos rfl,
        pairsIn_propertyTriples_eq_nil (hne k) hlater, List.append_nil]
    · refine (forall₂_congr_of_mem fun node hnode d' => ?_).2
        (forall₂_propertyTriples hlabels subject (k + 1) ds (by omega))
      obtain ⟨j, hj, rfl⟩ := mem_nodesFrom.1 hnode
      have hkj := propertyNode_ne hlabels (j := k) (k := j) (by omega) (by omega) (by omega)
      rw [propertyTriples, pairsIn_cons, if_neg (hne j), pairsIn_append, pairsIn_triplesOf, if_neg hkj, List.nil_append]

/-! ## Drafts -/

/-- How many property shapes the drafts have. -/
def propertyCount (ds : List ShapeDraft) : Nat := (ds.flatMap (·.properties)).length

theorem propertyCount_cons (d : ShapeDraft) (ds : List ShapeDraft) :
    propertyCount (d :: ds) = d.properties.length + propertyCount ds := List.length_append

theorem pairsIn_triples_subject (d : ShapeDraft) (k : Nat) : pairsIn (d.triples fresh k) (.iri d.subject) =
    d.pairs ++ (nodesFrom fresh k d.properties.length).map fun node => (.iri Sh.property, node) := by
  rw [ShapeDraft.triples, pairsIn_append, pairsIn_triplesOf, if_pos rfl, pairsIn_propertyTriples_subject]

theorem pairsIn_triples_eq_nil {d : ShapeDraft} (hsubject : .iri d.subject ≠ x)
    (hx : x ∉ nodesFrom fresh k d.properties.length) : pairsIn (d.triples fresh k) x = [] := by
  rw [ShapeDraft.triples, pairsIn_append, pairsIn_triplesOf, if_neg hsubject,
    pairsIn_propertyTriples_eq_nil hsubject hx, List.append_nil]

theorem pairsIn_draftTriples_iri {subject : String} : ∀ {k : Nat} {ds : List ShapeDraft},
    subject ∉ ds.map (·.subject) → pairsIn (draftTriples fresh k ds) (.iri subject) = []
  | _, [], _ => rfl
  | k, d :: ds, h => by
    rw [List.map_cons, List.mem_cons, not_or] at h
    have hne : Term.iri d.subject ≠ .iri subject := fun heq => h.1 (Term.iri.inj heq).symm
    rw [draftTriples, pairsIn_append, pairsIn_triples_eq_nil hne (iri_notMem_nodesFrom _ _ _),
      pairsIn_draftTriples_iri h.2, List.append_nil]

theorem pairsIn_draftTriples_node (hlabels : DistinctLabels fresh m) : ∀ {k : Nat} {ds : List ShapeDraft}, j < k →
    k + propertyCount ds ≤ m → pairsIn (draftTriples fresh k ds) (propertyNode fresh j) = []
  | _, [], _, _ => rfl
  | k, d :: ds, h, hm => by
    rw [propertyCount_cons] at hm
    have hnode := propertyNode_notMem_nodesFrom hlabels (k := k) (n := d.properties.length) (by omega)
      (show j < m by omega) (.inl h)
    rw [draftTriples, pairsIn_append, pairsIn_triples_eq_nil (iri_ne_propertyNode _ _) hnode,
      pairsIn_draftTriples_node hlabels (Nat.lt_add_right _ h) (by omega), List.append_nil]

/-- **A row says what a draft says**, its property shapes being numbered from `j` on. -/
structure ShapeDraft.DescribedIn (d : ShapeDraft) (fresh : Nat → String) (ts : List Triple) (j : Nat) : Prop where
  subject_pairs : pairsIn ts (.iri d.subject) =
    d.pairs ++ (nodesFrom fresh j d.properties.length).map fun node => (.iri Sh.property, node)
  property_pairs : List.Forall₂ (fun node p => pairsIn ts node = p.pairs) (nodesFrom fresh j d.properties.length)
    d.properties
  nodes_nodup : (nodesFrom fresh j d.properties.length).Nodup

theorem ShapeDraft.DescribedIn.congr {d : ShapeDraft} {ts us : List Triple} (h : d.DescribedIn fresh ts j)
    (hsubject : pairsIn us (.iri d.subject) = pairsIn ts (.iri d.subject))
    (hnodes : ∀ i, j ≤ i → i < j + d.properties.length →
      pairsIn us (propertyNode fresh i) = pairsIn ts (propertyNode fresh i)) : d.DescribedIn fresh us j := by
  refine ⟨hsubject.trans h.subject_pairs, (forall₂_congr_of_mem fun node hnode p => ?_).2 h.property_pairs,
    h.nodes_nodup⟩
  obtain ⟨i, ⟨hi, hi'⟩, rfl⟩ := mem_nodesFrom.1 hnode
  rw [hnodes i hi hi']

theorem ShapeDraft.describedIn_triples (hlabels : DistinctLabels fresh m) (d : ShapeDraft)
    (hm : k + d.properties.length ≤ m) : d.DescribedIn fresh (d.triples fresh k) k := by
  refine ⟨pairsIn_triples_subject d k, (forall₂_congr_of_mem fun node hnode p => ?_).2
    (forall₂_propertyTriples hlabels d.subject k d.properties hm), nodup_nodesFrom hlabels hm⟩
  obtain ⟨i, -, rfl⟩ := mem_nodesFrom.1 hnode
  rw [ShapeDraft.triples, pairsIn_append, pairsIn_triplesOf, if_neg (iri_ne_propertyNode _ _), List.nil_append]

/-- **The row of drafts says what each of them says.** -/
theorem exists_describedIn (hlabels : DistinctLabels fresh m) {d : ShapeDraft} : ∀ {k : Nat} {ds : List ShapeDraft},
    (ds.map (·.subject)).Nodup → d ∈ ds → k + propertyCount ds ≤ m →
    ∃ j, k ≤ j ∧ j + d.properties.length ≤ m ∧ d.DescribedIn fresh (draftTriples fresh k ds) j
  | k, e :: ds, hnodup, hd, hm => by
    rw [List.map_cons, List.nodup_cons] at hnodup
    rw [propertyCount_cons] at hm
    rcases List.mem_cons.1 hd with rfl | hd
    · -- the other drafts are about other subjects and later nodes
      refine ⟨k, Nat.le_refl k, by omega, (d.describedIn_triples hlabels (by omega)).congr ?_ fun i _ hi => ?_⟩
      · rw [draftTriples, pairsIn_append, pairsIn_draftTriples_iri hnodup.1, List.append_nil]
      · rw [draftTriples, pairsIn_append, pairsIn_draftTriples_node hlabels hi (by omega), List.append_nil]
    · obtain ⟨j, hj, hjm, h⟩ :=
        exists_describedIn hlabels hnodup.2 hd (show k + e.properties.length + propertyCount ds ≤ m by omega)
      have hsubject : Term.iri e.subject ≠ .iri d.subject := fun heq =>
        hnodup.1 (Term.iri.inj heq ▸ List.mem_map_of_mem hd)
      refine ⟨j, Nat.le_trans (Nat.le_add_right ..) hj, hjm, h.congr ?_ fun i hi hi' => ?_⟩
      · rw [draftTriples, pairsIn_append, pairsIn_triples_eq_nil hsubject (iri_notMem_nodesFrom _ _ _), List.nil_append]
      · have hnode := propertyNode_notMem_nodesFrom hlabels (k := k) (n := e.properties.length) (by omega)
          (show i < m by omega) (.inr (by omega))
        rw [draftTriples, pairsIn_append, pairsIn_triples_eq_nil (iri_ne_propertyNode _ _) hnode, List.nil_append]

/-! ## Types -/

theorem mem_triplesOf {t : Triple} {pairs : List (Term × Term)} :
    t ∈ triplesOf x pairs ↔ t.subject = x ∧ (t.predicate, t.object) ∈ pairs := by
  unfold triplesOf
  rw [List.mem_map]
  constructor
  · rintro ⟨p, hp, rfl⟩
    exact ⟨rfl, hp⟩
  · rintro ⟨rfl, hp⟩
    exact ⟨_, hp, rfl⟩

theorem type_notMem_propertyTriples {subject o : Term} : ∀ {k : Nat} {ds : List PropertyDraft},
    (∀ d ∈ ds, ∀ c ∈ d.calls, c.pair.1 ≠ .iri Rdf.type) → ⟨x, .iri Rdf.type, o⟩ ∉ propertyTriples fresh subject k ds
  | _, [], _ => List.not_mem_nil
  | k, d :: ds, h => by
    rw [List.forall_mem_cons] at h
    rw [propertyTriples, List.mem_cons, List.mem_append, mem_triplesOf]
    rintro (hlink | ⟨-, hpair⟩ | hmem)
    · exact absurd (Term.iri.inj (congrArg Triple.predicate hlink)) (by decide)
    · obtain ⟨c, hc, heq⟩ := List.mem_map.1 hpair
      exact h.1 c hc (by rw [heq])
    · exact type_notMem_propertyTriples h.2 hmem

/-- **Only the subjects of drafts are typed**, unless an extra pair types a node. -/
theorem subject_of_type_mem {o : Term} : ∀ {k : Nat} {ds : List ShapeDraft},
    (∀ d ∈ ds, ∀ p ∈ d.properties, ∀ c ∈ p.calls, c.pair.1 ≠ .iri Rdf.type) →
    ⟨x, .iri Rdf.type, o⟩ ∈ draftTriples fresh k ds → ∃ d ∈ ds, x = .iri d.subject
  | k, d :: ds, h, hmem => by
    rw [List.forall_mem_cons] at h
    rw [draftTriples, ShapeDraft.triples, List.mem_append, List.mem_append, mem_triplesOf] at hmem
    rcases hmem with (⟨hx, -⟩ | hmem) | hmem
    · exact ⟨d, List.mem_cons_self .., hx⟩
    · exact absurd hmem (type_notMem_propertyTriples h.1)
    · obtain ⟨e, he, hx⟩ := subject_of_type_mem h.2 hmem
      exact ⟨e, List.mem_cons_of_mem _ he, hx⟩

end ShapeBinding
