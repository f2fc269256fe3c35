import Mathlib.Data.Fintype.EquivFin
import Mathlib.Data.List.Perm.Subperm
import Mathlib.Logic.Relation
import Mathlib.Order.WellFounded
import ShapeBinding.Proofs.Refused
import ShapeBinding.Shape.Precedence
/-!
# Which shapes can be put in order

What placing does is said once: the positions it adds are ready one after the other (`Placeable`), and it stops only
where none is (`place_eq_error`).  From this follows what an order is: every shape once, after those that it refers to
(`order_eq_ok`).  Where references lead nowhere back, some position is always ready (`exists_isReady`), so that an order
exists just when every reference is a shape and no shape refers to itself in the end (`exists_order_iff`).  A reference to
no shape is refused before anything is placed, the first one in the order of declaration (`order_eq_unknown_iff`).
-/
namespace ShapeBinding

open Relation (TransGen)

namespace Shape

/-- The subject `x` is one of the shapes, and refers to `y`. -/
def Refers (shapes : List Shape) (x y : Term) : Prop := ∃ s ∈ shapes, s.subject = x ∧ y ∈ s.references.map (·.2)

/-- Every reference is the subject of one of the shapes. -/
def ReferencesKnown (shapes : List Shape) : Prop :=
  ∀ s ∈ shapes, ∀ y ∈ s.references.map (·.2), y ∈ shapes.map (·.subject)

/-- No shape refers to itself, directly or through others. -/
def Acyclic (shapes : List Shape) : Prop := ∀ x, ¬ TransGen (Refers shapes) x x

/-- **Every shape comes after those that it refers to.** -/
def InOrder (shapes : List Shape) : Prop :=
  ∀ before s after, shapes = before ++ s :: after → ∀ y ∈ s.references.map (·.2), y ∈ before.map (·.subject)

/-- What the shapes refer to, in the order of declaration, each time with the shape and the property that refer. -/
def allReferences (shapes : List Shape) : List (String × String × Term) :=
  shapes.flatMap fun s => s.references.map fun r => (s.name, r)

theorem Acyclic.perm {shapes others : List Shape} (h : Acyclic shapes) (hp : shapes.Perm others) : Acyclic others := by
  intro x hx
  refine h x (hx.lift id fun a b hab => ?_)
  obtain ⟨s, hs, hab⟩ := hab
  exact ⟨s, hp.mem_iff.2 hs, hab⟩

theorem InOrder.acyclic {shapes : List Shape} (h : InOrder shapes) (hs : (shapes.map (·.subject)).Nodup) :
    Acyclic shapes := by
  have hstep : ∀ x y, Refers shapes x y → (shapes.map (·.subject)).idxOf y < (shapes.map (·.subject)).idxOf x := by
    rintro _ y ⟨s, hmem, rfl, hy⟩
    obtain ⟨before, after, rfl⟩ := List.append_of_mem hmem
    have hbefore := h before s after rfl y hy
    rw [List.map_append, List.map_cons] at hs ⊢
    have hnot : s.subject ∉ before.map (·.subject) := fun hm =>
      (List.nodup_append.1 hs).2.2 _ hm _ (List.mem_cons_self ..) rfl
    rw [List.idxOf_append_of_mem hbefore, List.idxOf_append_of_notMem hnot]
    exact Nat.lt_of_lt_of_le (List.idxOf_lt_length_of_mem hbefore) (Nat.le_add_right ..)
  intro x hx
  have hlt : ∀ y, TransGen (Refers shapes) x y →
      (shapes.map (·.subject)).idxOf y < (shapes.map (·.subject)).idxOf x := by
    intro y hy
    induction hy with
    | single hxy => exact hstep _ _ hxy
    | tail _ hyz ih => exact Nat.lt_trans (hstep _ _ hyz) ih
  exact Nat.lt_irrefl _ (hlt x hx)

end Shape

namespace Precedence

/-! ## Placing -/

/-- Positions that exist and are ready one after the other, once others are placed. -/
def Placeable (deps : List (List Nat)) : List Nat → List Nat → Prop
  | _, [] => True
  | placed, i :: is => i < deps.length ∧ isReady deps placed i = true ∧ Placeable deps (placed ++ [i]) is

theorem isReady_iff {deps : List (List Nat)} {placed : List Nat} {i : Nat} :
    isReady deps placed i = true ↔ i ∉ placed ∧ ∀ j ∈ needs deps i, j ∈ placed := by
  simp [isReady]

theorem Placeable.nodup {deps : List (List Nat)} : ∀ {is placed : List Nat},
    placed.Nodup → Placeable deps placed is → (placed ++ is).Nodup
  | [], placed, hp, _ => by rwa [List.append_nil]
  | i :: is, placed, hp, ⟨_, hi, h⟩ => by
    have hp' : (placed ++ [i]).Nodup := by
      rw [List.nodup_append]
      refine ⟨hp, List.pairwise_singleton _ _, fun a ha b hb hab => (isReady_iff.1 hi).1 ?_⟩
      rw [← List.mem_singleton.1 hb, ← hab]
      exact ha
    have := h.nodup hp'
    rwa [List.append_assoc] at this

theorem Placeable.lt_length {deps : List (List Nat)} : ∀ {is placed : List Nat},
    Placeable deps placed is → ∀ i ∈ is, i < deps.length
  | [], _, _, _, hi => (List.not_mem_nil hi).elim
  | j :: is, placed, ⟨hj, _, h⟩, i, hi => by
    rcases List.mem_cons.1 hi with rfl | hi
    · exact hj
    · exact h.lt_length i hi

theorem Placeable.needs_subset {deps : List (List Nat)} : ∀ {before placed : List Nat} {i : Nat} {after : List Nat},
    Placeable deps placed (before ++ i :: after) → ∀ j ∈ needs deps i, j ∈ placed ++ before
  | [], placed, i, after, ⟨_, hi, _⟩, j, hj => by
    rw [List.append_nil]
    exact (isReady_iff.1 hi).2 j hj
  | k :: before, placed, i, after, ⟨_, _, h⟩, j, hj => by
    have := h.needs_subset j hj
    rwa [List.append_assoc] at this

/-- **All positions that are placed in a row** are every position once. -/
theorem Placeable.perm_range {deps : List (List Nat)} {is : List Nat} (h : Placeable deps [] is)
    (hlen : is.length = deps.length) : is.Perm (List.range deps.length) := by
  have hsub : is ⊆ List.range deps.length := fun i hi => List.mem_range.2 (h.lt_length i hi)
  have hnodup : is.Nodup := h.nodup .nil
  exact (hnodup.subperm hsub).perm_of_length_le (by rw [List.length_range, hlen])

theorem place_eq_ok {deps : List (List Nat)} : ∀ {n : Nat} {placed order : List Nat},
    place deps n placed = .ok order → ∃ is, order = placed ++ is ∧ is.length = n ∧ Placeable deps placed is
  | 0, placed, order, h => by
    cases h
    exact ⟨[], (List.append_nil _).symm, rfl, trivial⟩
  | n + 1, placed, order, h => by
    unfold place at h
    split at h
    · rename_i i hi
      obtain ⟨is, rfl, hn, hp⟩ := place_eq_ok h
      refine ⟨i :: is, List.append_assoc .., by rw [List.length_cons, hn], ?_, List.find?_some hi, hp⟩
      exact List.mem_range.1 (List.mem_of_find?_eq_some hi)
    · cases h

theorem place_eq_error {deps : List (List Nat)} : ∀ {n : Nat} {placed stuck : List Nat},
    place deps n placed = .error stuck → ∃ is, stuck = placed ++ is ∧ is.length < n ∧ Placeable deps placed is ∧
      ∀ i < deps.length, isReady deps stuck i = false
  | 0, placed, stuck, h => by cases h
  | n + 1, placed, stuck, h => by
    unfold place at h
    split at h
    · rename_i i hi
      obtain ⟨is, rfl, hn, hp, hstuck⟩ := place_eq_error h
      refine ⟨i :: is, List.append_assoc .., Nat.succ_lt_succ hn, ⟨?_, List.find?_some hi, hp⟩, hstuck⟩
      exact List.mem_range.1 (List.mem_of_find?_eq_some hi)
    · rename_i hnone
      cases h
      refine ⟨[], (List.append_nil _).symm, Nat.succ_pos n, trivial, fun i hi => ?_⟩
      simpa using List.find?_eq_none.1 hnone i (List.mem_range.2 hi)

/-- **If needs lead nowhere back, some position that is left is ready**: one that needs no other that is left. -/
theorem exists_isReady {deps : List (List Nat)} {placed : List Nat}
    (hlt : ∀ i, ∀ j ∈ needs deps i, j < deps.length)
    (hac : ∀ i, ¬ TransGen (fun i j => j ∈ needs deps i) i i) (hleft : ∃ i < deps.length, i ∉ placed) :
    ∃ i < deps.length, isReady deps placed i = true := by
  let below : Fin deps.length → Fin deps.length → Prop := fun a b => TransGen (fun i j => j ∈ needs deps i) b a
  have : IsTrans (Fin deps.length) below := ⟨fun _ _ _ hab hbc => hbc.trans hab⟩
  have : Std.Irrefl below := ⟨fun a => hac a⟩
  obtain ⟨i, hi, hp⟩ := hleft
  obtain ⟨m, hm, hmin⟩ := (Finite.wellFounded_of_trans_of_irrefl below).has_min
    {k | k.val ∉ placed} ⟨⟨i, hi⟩, hp⟩
  refine ⟨m, m.isLt, isReady_iff.2 ⟨hm, fun j hj => ?_⟩⟩
  by_contra hjp
  exact hmin ⟨j, hlt m j hj⟩ hjp (.single hj)

/-- If fewer positions are placed than there are, one is left. -/
theorem exists_left_of_length_lt {deps : List (List Nat)} {placed : List Nat} (h : placed.length < deps.length) :
    ∃ i < deps.length, i ∉ placed := by
  by_contra hall
  have hsub : List.range deps.length ⊆ placed := fun i hi => by
    by_contra hni
    exact hall ⟨i, List.mem_range.1 hi, hni⟩
  have := (List.nodup_range.subperm hsub).length_le
  rw [List.length_range] at this
  omega

/-- **Placing all positions succeeds if needs lead nowhere back.** -/
theorem exists_place_eq_ok {deps : List (List Nat)} (hlt : ∀ i, ∀ j ∈ needs deps i, j < deps.length)
    (hac : ∀ i, ¬ TransGen (fun i j => j ∈ needs deps i) i i) :
    ∃ order, place deps deps.length [] = .ok order := by
  cases h : place deps deps.length [] with
  | ok order => exact ⟨order, rfl⟩
  | error stuck =>
    obtain ⟨_, rfl, hlen, -, hstuck⟩ := place_eq_error h
    obtain ⟨i, hi, hready⟩ := exists_isReady hlt hac (exists_left_of_length_lt hlen)
    rw [hstuck i hi] at hready
    cases hready

/-! ## References by position -/

variable {shapes : List Shape}

theorem position?_eq_some_iff (hs : (shapes.map (·.subject)).Nodup) {x : Term} {j : Nat} :
    position? shapes x = some j ↔ ∃ s, shapes[j]? = some s ∧ s.subject = x := by
  unfold position?
  rw [List.findIdx?_eq_some_iff_getElem]
  constructor
  · rintro ⟨hj, hx, -⟩
    exact ⟨shapes[j], List.getElem?_eq_getElem hj, by simpa using hx⟩
  · rintro ⟨s, hj, rfl⟩
    obtain ⟨hlt, rfl⟩ := List.getElem?_eq_some_iff.1 hj
    refine ⟨hlt, by simp, fun k hk heq => ?_⟩
    have hk' : k < (shapes.map (·.subject)).length := by simpa using hk.trans hlt
    have hj' : j < (shapes.map (·.subject)).length := by simpa using hlt
    have hsame : (shapes.map (·.subject))[k] = (shapes.map (·.subject))[j] := by simpa using heq
    exact absurd ((List.getElem_inj hs).1 hsame) (Nat.ne_of_lt hk)

theorem exists_position?_iff {x : Term} : (∃ j, position? shapes x = some j) ↔ x ∈ shapes.map (·.subject) := by
  rw [← Option.isSome_iff_exists, position?, List.findIdx?_isSome]
  simp

theorem positionsOf_eq_ok_iff {s : Shape} {js : List Nat} : positionsOf shapes s = .ok js ↔
    List.Forall₂ (fun y j => position? shapes y = some j) (s.references.map (·.2)) js := by
  rw [positionsOf, mapM_eq_ok_iff, List.forall₂_map_left_iff]
  refine forall₂_congr_of_mem fun r _ j => ?_
  dsimp only
  cases position? shapes r.2 <;> simp

theorem exists_positions_iff :
    (∃ deps, shapes.mapM (positionsOf shapes) = .ok deps) ↔ Shape.ReferencesKnown shapes := by
  rw [exists_mapM_eq_ok_iff]
  refine forall₂_congr fun s _ => ?_
  simp only [positionsOf, exists_mapM_eq_ok_iff, ← exists_position?_iff, List.forall_mem_map]
  refine forall₂_congr fun r _ => ?_
  cases position? shapes r.2 <;> simp

theorem length_of_positions {deps : List (List Nat)} (hd : shapes.mapM (positionsOf shapes) = .ok deps) :
    deps.length = shapes.length := (mapM_eq_ok_iff.1 hd).length_eq.symm

/-- **The needs of a position are the positions of what its shape refers to.** -/
theorem mem_needs_iff (hs : (shapes.map (·.subject)).Nodup) {deps : List (List Nat)}
    (hd : shapes.mapM (positionsOf shapes) = .ok deps) {i j : Nat} : j ∈ needs deps i ↔
      ∃ s t, shapes[i]? = some s ∧ shapes[j]? = some t ∧ t.subject ∈ s.references.map (·.2) := by
  rw [mapM_eq_ok_iff] at hd
  rcases getElem?_of_forall₂ hd i with ⟨hi, hi'⟩ | ⟨s, js, hi, hi', hjs⟩
  · simp [needs, hi, hi']
  · have hpos := positionsOf_eq_ok_iff.1 hjs
    rw [needs, List.getD_eq_getElem?_getD, hi', Option.getD_some, hi]
    constructor
    · intro hj
      obtain ⟨y, hy, hyj⟩ := exists_left_of_forall₂ hpos hj
      obtain ⟨t, ht, rfl⟩ := (position?_eq_some_iff hs).1 hyj
      exact ⟨s, t, rfl, ht, hy⟩
    · rintro ⟨_, t, ⟨⟩, ht, hy⟩
      obtain ⟨k, hk, hyk⟩ := exists_right_of_forall₂ hpos hy
      rw [(position?_eq_some_iff hs).2 ⟨t, ht, rfl⟩] at hyk
      cases hyk
      exact hk

theorem lt_length_of_mem_needs (hs : (shapes.map (·.subject)).Nodup) {deps : List (List Nat)}
    (hd : shapes.mapM (positionsOf shapes) = .ok deps) (i : Nat) : ∀ j ∈ needs deps i, j < deps.length := by
  intro j hj
  obtain ⟨_, _, _, ht, _⟩ := (mem_needs_iff hs hd).1 hj
  rw [length_of_positions hd]
  exact (List.getElem?_eq_some_iff.1 ht).1

/-! ## References to no shape -/

/-- The subject is that of no shape. -/
def isUnknown (shapes : List Shape) (y : Term) : Bool := y ∉ shapes.map (·.subject)

theorem isUnknown_eq_false_iff {y : Term} : isUnknown shapes y = false ↔ ∃ j, position? shapes y = some j := by
  rw [exists_position?_iff, isUnknown, decide_eq_false_iff_not, not_not]

theorem isUnknown_iff {y : Term} : isUnknown shapes y = true ↔ position? shapes y = none := by
  rw [← Bool.not_eq_false, isUnknown_eq_false_iff, not_exists]
  exact Option.eq_none_iff_forall_ne_some.symm

theorem exists_positionsOf {s : Shape} (h : s.references.find? (fun r => isUnknown shapes r.2) = none) :
    ∃ js, positionsOf shapes s = .ok js := by
  refine exists_mapM_eq_ok_iff.2 fun ⟨property, y⟩ hr => ?_
  obtain ⟨j, hj⟩ := isUnknown_eq_false_iff.1 (Bool.eq_false_iff.2 (List.find?_eq_none.1 h (property, y) hr))
  exact ⟨j, by simp only [hj]⟩

/-- **The references of a shape are refused with the first that is to no shape.** -/
theorem positionsOf_of_find? {s : Shape} {r : String × Term}
    (h : s.references.find? (fun r => isUnknown shapes r.2) = some r) :
    positionsOf shapes s = .error (.unknownReference s.name r.1 r.2) := by
  obtain ⟨hr, before, after, hsplit, hbefore⟩ := List.find?_eq_some_iff_append.1 h
  refine mapM_eq_error_iff.2 ⟨before, r, after, hsplit, fun ⟨property, y⟩ hx => ?_, ?_⟩
  · obtain ⟨j, hj⟩ := isUnknown_eq_false_iff.1 (by simpa using hbefore (property, y) hx)
    exact ⟨j, by simp only [hj]⟩
  · obtain ⟨property, y⟩ := r
    rw [isUnknown_iff] at hr
    simp only [hr]

theorem mapM_positionsOf_eq_error_iff {e : CompileError} : ∀ {ss : List Shape},
    ss.mapM (positionsOf shapes) = .error e ↔ ∃ r, (Shape.allReferences ss).find? (fun r => isUnknown shapes r.2.2) =
      some r ∧ e = .unknownReference r.1 r.2.1 r.2.2
  | [] => by simp [Shape.allReferences, pure, Except.pure]
  | s :: ss => by
    have ih := @mapM_positionsOf_eq_error_iff e ss
    have hcons : (Shape.allReferences (s :: ss)).find? (fun r => isUnknown shapes r.2.2) =
        ((s.references.find? fun r => isUnknown shapes r.2).map fun r => (s.name, r)).or
          ((Shape.allReferences ss).find? fun r => isUnknown shapes r.2.2) := by
      rw [Shape.allReferences, List.flatMap_cons, List.find?_append, List.find?_map]
      rfl
    rw [List.mapM_cons, bind_eq_error_iff, hcons]
    cases hfind : s.references.find? fun r => isUnknown shapes r.2 with
    | none =>
      obtain ⟨js, hjs⟩ := exists_positionsOf hfind
      simp [hjs, bind_eq_error_iff, ih, pure, Except.pure]
    | some r => simp [positionsOf_of_find? hfind, eq_comm]

/-- **A reference to no shape is reported first**, whatever circles there are: it is the first one in the order of
declaration. -/
theorem order_eq_unknown_iff {shape property : String} {reference : Term} :
    order shapes = .error (.unknownReference shape property reference) ↔
      (Shape.allReferences shapes).find? (fun r => isUnknown shapes r.2.2) = some (shape, property, reference) := by
  rw [order, bind_eq_error_iff, mapM_positionsOf_eq_error_iff]
  constructor
  · rintro (⟨⟨_, _, _⟩, hr, ⟨⟩⟩ | ⟨deps, -, h⟩)
    · exact hr
    · split at h <;> cases h
  · exact fun h => .inl ⟨_, h, rfl⟩

/-! ## Orders -/

theorem shapesAt_range (shapes : List Shape) : shapesAt shapes (List.range shapes.length) = shapes := by
  induction shapes using List.reverseRecOn with
  | nil => rfl
  | append_singleton shapes s ih =>
    have hbefore : shapesAt (shapes ++ [s]) (List.range shapes.length) = shapes := by
      conv => rhs; rw [← ih]
      exact List.filterMap_congr fun i hi => List.getElem?_append_left (List.mem_range.1 hi)
    rw [List.length_append, List.length_singleton, List.range_succ]
    unfold shapesAt at hbefore ⊢
    rw [List.filterMap_append, hbefore]
    simp

/-- **What an accepted order is**: every reference is a shape, and the shapes come once each, in an order of
precedence. -/
theorem order_eq_ok (hs : (shapes.map (·.subject)).Nodup) {positions : List Nat}
    (h : order shapes = .ok positions) :
    Shape.ReferencesKnown shapes ∧ (shapesAt shapes positions).Perm shapes ∧
      Shape.InOrder (shapesAt shapes positions) := by
  obtain ⟨deps, hd, h⟩ := bind_eq_ok_iff.1 h
  have hlen := length_of_positions hd
  split at h
  · rename_i placed hplace
    cases h
    obtain ⟨_, rfl, hn, hp⟩ := place_eq_ok hplace
    have hperm := hp.perm_range (hn.trans hlen.symm)
    rw [hlen] at hperm
    refine ⟨exists_positions_iff.1 ⟨deps, hd⟩, ?_, ?_⟩
    · have := hperm.filterMap (shapes[·]?)
      rwa [← shapesAt, ← shapesAt, shapesAt_range] at this
    · intro before s after hsplit y hy
      obtain ⟨is, js, rfl, rfl, hrest⟩ := List.filterMap_eq_append_iff.1 hsplit
      obtain ⟨ks, i, ls, rfl, hnone, hi, rfl⟩ := List.filterMap_eq_cons_iff.1 hrest
      rw [← List.append_assoc] at hp
      obtain ⟨t, ht, rfl⟩ := List.mem_map.1 (exists_positions_iff.1 ⟨deps, hd⟩ s (List.mem_of_getElem? hi) y hy)
      obtain ⟨j, hj⟩ := List.mem_iff_getElem?.1 ht
      have hneed : j ∈ needs deps i := (mem_needs_iff hs hd).2 ⟨s, t, hi, hj, hy⟩
      have hmem := hp.needs_subset j hneed
      rw [List.nil_append] at hmem
      refine List.mem_map.2 ⟨t, List.mem_filterMap.2 ⟨j, ?_, hj⟩, rfl⟩
      rcases List.mem_append.1 hmem with hmem | hmem
      · exact hmem
      · rw [hnone j hmem] at hj
        cases hj
  · cases h

/-- **An order exists just when every reference is a shape and no shape refers to itself in the end.** -/
theorem exists_order_iff (hs : (shapes.map (·.subject)).Nodup) :
    (∃ positions, order shapes = .ok positions) ↔ Shape.ReferencesKnown shapes ∧ Shape.Acyclic shapes := by
  constructor
  · rintro ⟨positions, h⟩
    obtain ⟨hknown, hperm, hin⟩ := order_eq_ok hs h
    exact ⟨hknown, (hin.acyclic ((hperm.map _).nodup_iff.2 hs)).perm hperm⟩
  · rintro ⟨hknown, hac⟩
    obtain ⟨deps, hd⟩ := exists_positions_iff.2 hknown
    have hlen := length_of_positions hd
    -- a circle among positions is one among the subjects of their shapes
    have hacd : ∀ i, ¬ TransGen (fun i j => j ∈ needs deps i) i i := by
      intro i hi
      let subjectAt : Nat → Term := fun k => ((shapes[k]?).map (·.subject)).getD default
      refine hac (subjectAt i) (hi.lift subjectAt fun a b hab => ?_)
      obtain ⟨s, t, ha, hb, hr⟩ := (mem_needs_iff hs hd).1 hab
      refine ⟨s, List.mem_of_getElem? ha, by simp [subjectAt, ha], ?_⟩
      simpa [subjectAt, hb] using hr
    obtain ⟨placed, hplace⟩ := exists_place_eq_ok (lt_length_of_mem_needs hs hd) hacd
    refine ⟨placed, bind_eq_ok_iff.2 ⟨deps, hd, ?_⟩⟩
    rw [← hlen, hplace]

end Precedence
end ShapeBinding
