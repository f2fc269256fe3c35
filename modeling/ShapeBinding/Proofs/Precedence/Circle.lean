import Mathlib.Data.List.Chain
import Mathlib.Data.List.TakeWhile
import ShapeBinding.Proofs.Precedence
/-!
# The circle that is reported

Placing stops where nothing that is left is ready, and there everything that is left needs something that is left
(`exists_next?`).  So the walk along first needs never runs out: it goes on to a new position (`Trail.step`) until it
comes back to one where it has been, which it must as there are finitely many (`exists_walk`).  What it has walked from
there on is the circle (`Trail.exists_circle`), and the way that led into it is cut off.
-/
namespace ShapeBinding

open Relation (TransGen)

namespace Shape

/-- **Shapes in a circle**: distinct ones, each of which refers to the next, and the last to the first. -/
structure Circle (shapes : List Shape) (first : Shape) (rest : List Shape) : Prop where
  subset : first :: rest ⊆ shapes
  subjects_nodup : ((first :: rest).map (·.subject)).Nodup
  refers : (first :: rest ++ [first]).IsChain fun s t => t.subject ∈ s.references.map (·.2)

variable {shapes rest : List Shape} {first : Shape}

/-- **Whoever is in a circle refers to itself in the end.** -/
theorem Circle.transGen (h : Circle shapes first rest) {s : Shape} (hs : s ∈ first :: rest) :
    TransGen (Refers shapes) s.subject s.subject := by
  let leads : Shape → Shape → Prop := fun s t => TransGen (Refers shapes) s.subject t.subject
  have : Trans leads leads leads := ⟨fun hst htu => hst.trans htu⟩
  have hmem : ∀ s ∈ first :: rest ++ [first], s ∈ shapes := fun s hs => by
    rcases List.mem_append.1 hs with hs | hs
    · exact h.subset hs
    · exact h.subset (List.mem_cons.2 (.inl (List.mem_singleton.1 hs)))
  have hleads : (first :: (rest ++ [first])).Pairwise leads :=
    (h.refers.imp_of_mem_imp fun s _ hs _ hst => .single ⟨s, hmem s hs, rfl, hst⟩).pairwise
  rw [List.pairwise_cons, List.pairwise_append] at hleads
  obtain ⟨hfirst, -, -, hback⟩ := hleads
  rcases List.mem_cons.1 hs with rfl | hs
  · exact hfirst s (List.mem_append_right _ (List.mem_singleton_self s))
  · exact (hback s hs first (List.mem_singleton_self first)).trans (hfirst s (List.mem_append_left _ hs))

end Shape

namespace Precedence

variable {shapes : List Shape} {deps : List (List Nat)} {placed path : List Nat} {i j : Nat}

/-! ## Walks -/

theorem next?_eq_some (h : next? deps placed i = some j) : j < deps.length ∧ j ∈ needs deps i ∧ j ∉ placed := by
  have hj := List.find?_some h
  rw [Bool.and_eq_true, decide_eq_true_iff, decide_eq_true_iff] at hj
  exact ⟨lt_of_next? h, hj⟩

/-- **Where nothing is ready, whatever is left needs something that is left.** -/
theorem exists_next? (hlt : ∀ i, ∀ j ∈ needs deps i, j < deps.length)
    (hstuck : ∀ i < deps.length, isReady deps placed i = false) (hi : i < deps.length) (hleft : i ∉ placed) :
    ∃ j, next? deps placed i = some j := by
  have hneed : ∃ j ∈ needs deps i, j ∉ placed := by
    by_contra hall
    have hready : isReady deps placed i = true := isReady_iff.2 ⟨hleft, fun j hj => by
      by_contra hp
      exact hall ⟨j, hj, hp⟩⟩
    rw [hstuck i hi] at hready
    cases hready
  obtain ⟨j, hj, hp⟩ := hneed
  rw [← Option.isSome_iff_exists, next?, List.find?_isSome]
  exact ⟨j, List.mem_range.2 (hlt i j hj), by simp [hj, hp]⟩

/-- **How far a walk has come**: it started at the first position that is left, went on to the first need that is left
each time, and was nowhere twice. -/
structure Trail (deps : List (List Nat)) (placed path : List Nat) : Prop where
  start : path.head? = (List.range deps.length).find? (· ∉ placed)
  left : ∀ i ∈ path, i < deps.length ∧ i ∉ placed
  steps : path.IsChain fun i j => next? deps placed i = some j
  nodup : path.Nodup

theorem Trail.singleton (h : (List.range deps.length).find? (· ∉ placed) = some i) : Trail deps placed [i] where
  start := h.symm
  left := List.forall_mem_singleton.2 ⟨List.mem_range.1 (List.mem_of_find?_eq_some h), by simpa using List.find?_some h⟩
  steps := .singleton i
  nodup := List.nodup_singleton i

/-- **One step of a walk** that comes to a new position. -/
theorem Trail.step (h : Trail deps placed path) (hi : path.getLast? = some i) (hj : next? deps placed i = some j)
    (hnew : j ∉ path) : Trail deps placed (path ++ [j]) where
  start := by
    rw [← h.start, List.head?_append_of_ne_nil]
    rintro rfl
    cases hi
  left := List.forall_mem_append.2 ⟨h.left, List.forall_mem_singleton.2
    ⟨(next?_eq_some hj).1, (next?_eq_some hj).2.2⟩⟩
  steps := List.isChain_append.2 ⟨h.steps, .singleton j, fun x hx y hy => by
    rw [hi] at hx
    cases hx
    cases hy
    exact hj⟩
  nodup := List.nodup_append.2 ⟨h.nodup, List.nodup_singleton j, fun x hx y hy hxy => hnew (by
    rwa [← List.mem_singleton.1 hy, ← hxy])⟩

/-- **A whole walk** ends on a trail whose last position leads back to one of the trail, and answers with the trail from
there.  By the number of positions where the walk has not been. -/
theorem exists_walk {path : List Nat} {i : Nat}
    (hnext : ∀ i < deps.length, i ∉ placed → ∃ j, next? deps placed i = some j)
    (h : Trail deps placed path) (hi : path.getLast? = some i) :
    ∃ trail last back, walk deps placed path i = some (trail.dropWhile (· ≠ back)) ∧ Trail deps placed trail ∧
      trail.getLast? = some last ∧ next? deps placed last = some back ∧ back ∈ trail := by
  obtain ⟨hlt, hleft⟩ := h.left i (List.mem_of_getLast? hi)
  obtain ⟨j, hj⟩ := hnext i hlt hleft
  unfold walk
  split
  · rename_i hnone
    rw [hj] at hnone
    cases hnone
  · rename_i k hk
    rw [hj] at hk
    cases hk
    by_cases hmem : j ∈ path
    · rw [dif_pos hmem]
      exact ⟨path, i, j, rfl, h, hi, hj, hmem⟩
    · rw [dif_neg hmem]
      exact exists_walk hnext (h.step hi hj hmem) List.getLast?_concat
termination_by (unvisited deps path).length
decreasing_by exact length_unvisited_append (lt_of_next? hj) hmem

theorem Trail.length_le (h : Trail deps placed path) : path.length ≤ deps.length := by
  have hsub : path ⊆ List.range deps.length := fun i hi => List.mem_range.2 (h.left i hi).1
  have := (h.nodup.subperm hsub).length_le
  rwa [List.length_range] at this

/-! ## Circles -/

/-- **The trail from where it comes back is a circle** of positions, each of which needs the next one. -/
theorem Trail.exists_circle (h : Trail deps placed path) {last back : Nat} (hlast : path.getLast? = some last)
    (hnext : next? deps placed last = some back) (hback : back ∈ path) : ∃ after,
      path.dropWhile (· ≠ back) = back :: after ∧ (back :: after).Nodup ∧
        (back :: after ++ [back]).IsChain fun i j => j ∈ needs deps i := by
  have hsuffix := List.dropWhile_suffix (· ≠ back) (l := path)
  cases hcircle : path.dropWhile (· ≠ back) with
  | nil =>
    have hall := List.dropWhile_eq_nil_iff.1 hcircle back hback
    simp at hall
  | cons k after =>
    have hk := List.head?_dropWhile_not (fun i => decide (i ≠ back)) path
    rw [hcircle] at hk hsuffix
    obtain rfl : k = back := by simpa using hk
    have hend : (k :: after).getLast? = some last := by
      obtain ⟨before, hsplit⟩ := hsuffix
      rwa [← hsplit, List.getLast?_append_of_ne_nil _ (List.cons_ne_nil k after)] at hlast
    refine ⟨after, rfl, hsuffix.sublist.nodup h.nodup, ?_⟩
    have hsteps : (k :: after ++ [k]).IsChain fun i j => next? deps placed i = some j := by
      refine List.isChain_append.2 ⟨h.steps.suffix hsuffix, .singleton k, fun x hx y hy => ?_⟩
      cases hy
      rw [hend] at hx
      cases hx
      exact hnext
    exact hsteps.imp fun _ _ hij => (next?_eq_some hij).2.1

theorem forall₂_shapesAt : ∀ {positions : List Nat}, (∀ i ∈ positions, i < shapes.length) →
    List.Forall₂ (fun i s => shapes[i]? = some s) positions (shapesAt shapes positions)
  | [], _ => .nil
  | i :: is, h => by
    rw [List.forall_mem_cons] at h
    have hi := List.getElem?_eq_getElem h.1
    rw [shapesAt, List.filterMap_cons_some hi]
    exact .cons hi (forall₂_shapesAt h.2)

theorem isChain_of_forall₂ {α β : Type} {R : α → β → Prop} {P : α → α → Prop} {Q : β → β → Prop}
    (hPQ : ∀ a a' b b', R a b → R a' b' → P a a' → Q b b') : ∀ {as : List α} {bs : List β}, List.Forall₂ R as bs →
    as.IsChain P → bs.IsChain Q
  | _, _, .nil, _ => .nil
  | _, _, .cons _ .nil, _ => .singleton _
  | _, _, .cons hab (.cons hab' hrest), hP => by
    rw [List.isChain_cons_cons] at hP ⊢
    exact ⟨hPQ _ _ _ _ hab hab' hP.1, isChain_of_forall₂ hPQ (.cons hab' hrest) hP.2⟩

/-- **A circle of positions is one of the shapes there.** -/
theorem exists_circle_shapesAt (hs : (shapes.map (·.subject)).Nodup) (hd : shapes.mapM (positionsOf shapes) = .ok deps)
    {after : List Nat} (hlt : ∀ k ∈ i :: after, k < shapes.length) (hnodup : (i :: after).Nodup)
    (hchain : (i :: after ++ [i]).IsChain fun i j => j ∈ needs deps i) :
    ∃ first rest, shapesAt shapes (i :: after) = first :: rest ∧ Shape.Circle shapes first rest := by
  have hat := forall₂_shapesAt hlt
  cases hshapes : shapesAt shapes (i :: after) with
  | nil =>
    rw [hshapes] at hat
    cases hat
  | cons first rest =>
    rw [hshapes] at hat
    refine ⟨first, rest, rfl, ?_, ?_, ?_⟩
    · intro s hs
      obtain ⟨k, -, hk⟩ := exists_left_of_forall₂ hat hs
      exact List.mem_of_getElem? hk
    · refine List.pairwise_map.2 (pairwise_of_forall₂ hat hnodup fun k _ l _ s t hk hl hkl hst => hkl ?_)
      have hk' := (position?_eq_some_iff hs).2 ⟨s, hk, rfl⟩
      rw [hst, (position?_eq_some_iff hs).2 ⟨t, hl, rfl⟩] at hk'
      exact (Option.some.inj hk').symm
    · have hfirst : List.Forall₂ (fun i s => shapes[i]? = some s) [i] [first] := by
        cases hat with
        | cons hi _ => exact .cons hi .nil
      refine isChain_of_forall₂ (fun k l s t hk hl hkl => ?_) (List.rel_append hat hfirst) hchain
      obtain ⟨_, _, hk', hl', hr⟩ := (mem_needs_iff hs hd).1 hkl
      rw [hk] at hk'
      rw [hl] at hl'
      cases hk'
      cases hl'
      exact hr

/-! ## The walk after a stop -/

/-- **How a circle is walked to**: the walk starts somewhere and can go on from wherever it may come to, so that it ends in
none of the ways that find no circle; it comes back before it has taken more steps than there are positions. -/
structure WalksRound (deps : List (List Nat)) (placed circle : List Nat) : Prop where
  starts : ∃ start, (List.range deps.length).find? (· ∉ placed) = some start
  goes_on : ∀ i < deps.length, i ∉ placed → ∃ j, next? deps placed i = some j
  comes_back : ∃ trail last back, Trail deps placed trail ∧ trail.length ≤ deps.length ∧ trail.getLast? = some last ∧
    next? deps placed last = some back ∧ back ∈ trail ∧ circle = trail.dropWhile (· ≠ back)

theorem exists_walksRound (hlt : ∀ i, ∀ j ∈ needs deps i, j < deps.length)
    (hstuck : ∀ i < deps.length, isReady deps placed i = false) (hleft : ∃ i < deps.length, i ∉ placed) :
    ∃ circle, cycle? deps placed = some circle ∧ WalksRound deps placed circle := by
  have hstart : ∃ start, (List.range deps.length).find? (· ∉ placed) = some start := by
    obtain ⟨i, hi, hp⟩ := hleft
    rw [← Option.isSome_iff_exists, List.find?_isSome]
    exact ⟨i, List.mem_range.2 hi, by simpa using hp⟩
  have hnext : ∀ i < deps.length, i ∉ placed → ∃ j, next? deps placed i = some j :=
    fun i hi hp => exists_next? hlt hstuck hi hp
  obtain ⟨start, hfirst⟩ := hstart
  obtain ⟨trail, last, back, hwalk, htrail, hlast, hback, hmem⟩ :=
    exists_walk hnext (Trail.singleton hfirst) List.getLast?_singleton
  refine ⟨trail.dropWhile (· ≠ back), ?_, ⟨start, hfirst⟩, hnext, trail, last, back, htrail, htrail.length_le, hlast,
    hback, hmem, rfl⟩
  rw [cycle?, hfirst, Option.bind_some, hwalk]

/-- **A circle that is reported is one.**  Where an order is refused for a circle, the walk from the first shape that is
left comes back, and what is reported are the names of the shapes from there on: distinct ones, each referring to the next
and the last to the first, so that every one of them refers to itself in the end. -/
theorem exists_circle_of_order_eq_cycle (hs : (shapes.map (·.subject)).Nodup) {names : List String}
    (h : order shapes = .error (.cycle names)) :
    ∃ deps placed circle first rest, shapes.mapM (positionsOf shapes) = .ok deps ∧
      place deps shapes.length [] = .error placed ∧ cycle? deps placed = some circle ∧ WalksRound deps placed circle ∧
      shapesAt shapes circle = first :: rest ∧ names = (first :: rest).map (·.name) ∧ Shape.Circle shapes first rest ∧
      ∀ s ∈ first :: rest, TransGen (Shape.Refers shapes) s.subject s.subject := by
  rw [order, bind_eq_error_iff] at h
  obtain h | ⟨deps, hd, h⟩ := h
  · obtain ⟨_, -, ⟨⟩⟩ := mapM_positionsOf_eq_error_iff.1 h
  · have hlen := length_of_positions hd
    split at h
    · cases h
    · rename_i placed hplace
      cases h
      obtain ⟨_, rfl, hcount, -, hstuck⟩ := place_eq_error hplace
      obtain ⟨circle, hcircle, hround⟩ := exists_walksRound (lt_length_of_mem_needs hs hd) hstuck
        (exists_left_of_length_lt (by rwa [hlen]))
      obtain ⟨trail, last, back, htrail, -, hlast, hback, hmem, htail⟩ := hround.comes_back
      obtain ⟨after, hafter, hnodup, hchain⟩ := htrail.exists_circle hlast hback hmem
      rw [← htail] at hafter
      subst hafter
      have hlt : ∀ k ∈ back :: after, k < shapes.length := fun k hk => by
        rw [htail] at hk
        rw [← hlen]
        exact (htrail.left k ((List.dropWhile_sublist _).subset hk)).1
      obtain ⟨first, rest, hshapes, hcirc⟩ := exists_circle_shapesAt hs hd hlt hnodup hchain
      refine ⟨deps, _, _, first, rest, hd, hplace, hcircle, hround, hshapes, ?_, hcirc, fun s hs => hcirc.transGen hs⟩
      rw [hcircle, Option.getD_some, hshapes]

end Precedence

namespace Example

/-- A house has rooms, a room has doors, and a door leads to a room. -/
def houseShapes : List Shape := [
  ⟨.iri "http://example.org/HouseShape", "House", "http://example.org/House",
    [⟨"room", "http://example.org/room", some (.nested (.iri "http://example.org/RoomShape")), none, []⟩]⟩,
  ⟨.iri "http://example.org/RoomShape", "Room", "http://example.org/Room",
    [⟨"door", "http://example.org/door", some (.nested (.iri "http://example.org/DoorShape")), none, []⟩]⟩,
  ⟨.iri "http://example.org/DoorShape", "Door", "http://example.org/Door",
    [⟨"leadsTo", "http://example.org/leadsTo", some (.nested (.iri "http://example.org/RoomShape")), none, []⟩]⟩]

end Example

open Example in
/-- Rooms and doors are reported as a circle, and the house that the walk starts from is not. -/
theorem Precedence.exists_circle_of_order_eq_cycle_house : (houseShapes.map (·.subject)).Nodup ∧
    order houseShapes = .error (.cycle ["Room", "Door"]) ∧
    ∃ first rest, ["Room", "Door"] = (first :: rest).map (·.name) ∧ Shape.Circle houseShapes first rest := by
  have hs : (houseShapes.map (·.subject)).Nodup := by decide
  have horder : order houseShapes = .error (.cycle ["Room", "Door"]) := by decide +kernel
  obtain ⟨-, -, -, first, rest, -, -, -, -, -, hnames, hcircle, -⟩ := exists_circle_of_order_eq_cycle hs horder
  exact ⟨hs, horder, first, rest, hnames, hcircle⟩

end ShapeBinding
