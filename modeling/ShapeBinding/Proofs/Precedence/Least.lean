import ShapeBinding.Proofs.Precedence
/-!
# The least of all orders

Several orders may put every shape after those that it refers to (`Linearizes`).  By position such an order is just a run
of placings that are all possible (`linearizes_iff`), and since each step of the run takes the first position there is to
take, no other order comes before the one that is found (`eq_or_lex_of_place`).
-/
namespace ShapeBinding
namespace Precedence

variable {shapes : List Shape} {deps : List (List Nat)}

/-- **An order of precedence by position**: every position stands there once, and after the positions of all shapes that
its shape refers to. -/
structure Linearizes (shapes : List Shape) (positions : List Nat) : Prop where
  perm : positions.Perm (List.range shapes.length)
  referenced_before : ∀ before i after, positions = before ++ i :: after → ∀ s t j, shapes[i]? = some s →
    shapes[j]? = some t → t.subject ∈ s.references.map (·.2) → j ∈ before

/-! ## Orders as placings -/

theorem placeable_of_splits : ∀ {is placed : List Nat}, (placed ++ is).Nodup → (∀ i ∈ is, i < deps.length) →
    (∀ before i after, is = before ++ i :: after → ∀ j ∈ needs deps i, j ∈ placed ++ before) → Placeable deps placed is
  | [], _, _, _, _ => trivial
  | i :: is, placed, hnodup, hlt, hneeds => by
    have hi : i ∉ placed := fun hmem => (List.nodup_append.1 hnodup).2.2 i hmem i (List.mem_cons_self ..) rfl
    have hready : isReady deps placed i = true := isReady_iff.2 ⟨hi, fun j hj => by
      simpa using hneeds [] i is rfl j hj⟩
    rw [← List.singleton_append, ← List.append_assoc] at hnodup
    refine ⟨hlt i (List.mem_cons_self ..), hready, placeable_of_splits hnodup
      (fun k hk => hlt k (List.mem_cons_of_mem i hk)) fun before k after hsplit j hj => ?_⟩
    have hmem := hneeds (i :: before) k after (by rw [hsplit, List.cons_append]) j hj
    rwa [List.append_assoc, List.singleton_append]

/-- **An order of precedence is a run of placings of as many positions as there are shapes.** -/
theorem linearizes_iff (hs : (shapes.map (·.subject)).Nodup) (hd : shapes.mapM (positionsOf shapes) = .ok deps)
    {positions : List Nat} :
    Linearizes shapes positions ↔ positions.length = shapes.length ∧ Placeable deps [] positions := by
  have hlen := length_of_positions hd
  constructor
  · rintro ⟨hperm, hbefore⟩
    refine ⟨by rw [hperm.length_eq, List.length_range], placeable_of_splits ?_ (fun i hi => ?_) ?_⟩
    · exact hperm.nodup_iff.2 List.nodup_range
    · rw [hlen]
      exact List.mem_range.1 (hperm.mem_iff.1 hi)
    · intro before i after hsplit j hj
      obtain ⟨s, t, hi, ht, hr⟩ := (mem_needs_iff hs hd).1 hj
      exact hbefore before i after hsplit s t j hi ht hr
  · rintro ⟨hcount, hp⟩
    constructor
    · rw [← hlen]
      exact hp.perm_range (hcount.trans hlen.symm)
    · rintro before i after rfl s t j hi ht hr
      exact hp.needs_subset j ((mem_needs_iff hs hd).2 ⟨s, t, hi, ht, hr⟩)

/-! ## The least placing -/

/-- **What is placed is the least that can be**: every other run of placings has, where it first differs, a position that
comes later.  By the steps of the run: a run that could take an earlier position would have shown that one ready. -/
theorem eq_or_lex_of_place : ∀ {n : Nat} {placed is js : List Nat}, place deps n placed = .ok (placed ++ is) →
    js.length = n → Placeable deps placed js → js = is ∨ List.Lex (· < ·) is js
  | 0, placed, is, js, h, hjs, _ => by
    obtain ⟨is', his, hn, -⟩ := place_eq_ok h
    rw [List.append_cancel_left his, List.eq_nil_of_length_eq_zero hn, List.eq_nil_of_length_eq_zero hjs]
    exact .inl rfl
  | n + 1, placed, is, [], _, hjs, _ => by cases hjs
  | n + 1, placed, is, j :: js, h, hjs, ⟨hj, hready, hrest⟩ => by
    unfold place at h
    split at h
    · rename_i i hi
      obtain ⟨-, -, hfirst⟩ := List.find?_range_eq_some.1 hi
      have hij : i ≤ j := Nat.le_of_not_lt fun hlt => by simpa [hready] using hfirst j hlt
      obtain ⟨is', his, -, -⟩ := place_eq_ok h
      rw [his] at h
      rw [List.append_assoc, List.singleton_append] at his
      obtain rfl : is = i :: is' := List.append_cancel_left his
      rcases Nat.lt_or_eq_of_le hij with hlt | rfl
      · exact .inr (.rel hlt)
      · rcases eq_or_lex_of_place h (Nat.succ.inj hjs) hrest with rfl | hlex
        · exact .inl rfl
        · exact .inr (.cons hlex)
    · rename_i hnone
      exact absurd hready (List.find?_eq_none.1 hnone j (List.mem_range.2 hj))

theorem linearizes_and_least_of_order (hs : (shapes.map (·.subject)).Nodup) {positions : List Nat}
    (h : order shapes = .ok positions) : Linearizes shapes positions ∧
      ∀ others, Linearizes shapes others → others = positions ∨ List.Lex (· < ·) positions others := by
  obtain ⟨deps, hd, h⟩ := bind_eq_ok_iff.1 h
  split at h
  · rename_i placed hplace
    cases h
    obtain ⟨_, rfl, hn, hp⟩ := place_eq_ok hplace
    refine ⟨(linearizes_iff hs hd).2 ⟨hn, hp⟩, fun others hothers => ?_⟩
    obtain ⟨hcount, hothers⟩ := (linearizes_iff hs hd).1 hothers
    exact eq_or_lex_of_place hplace hcount hothers
  · cases h

/-! ## What is found -/

/-- **Shapes are put into the least of all orders.**  An order is found just when every reference is to a shape and no
shape refers to itself in the end.  It is an order of precedence, and every other one has, where it first differs, a shape
that was discovered later.  The first reference to no shape is what is reported, even if there are circles too. -/
theorem order_least_of_orders (hs : (shapes.map (·.subject)).Nodup) :
    ((∃ positions, order shapes = .ok positions) ↔ Shape.ReferencesKnown shapes ∧ Shape.Acyclic shapes) ∧
      (∀ positions, order shapes = .ok positions → Linearizes shapes positions ∧
        ∀ others, Linearizes shapes others → others = positions ∨ List.Lex (· < ·) positions others) ∧
      ∀ shape property reference, order shapes = .error (.unknownReference shape property reference) ↔
        (Shape.allReferences shapes).find? (fun r => isUnknown shapes r.2.2) = some (shape, property, reference) :=
  ⟨exists_order_iff hs, fun _ h => linearizes_and_least_of_order hs h, fun _ _ _ => order_eq_unknown_iff⟩

end Precedence

namespace Example

/-- An order has items, and nothing else refers to anything. -/
def shopShapes : List Shape := [
  ⟨.iri "http://example.org/AddressShape", "Address", "http://example.org/Address", []⟩,
  ⟨.iri "http://example.org/OrderShape", "Order", "http://example.org/Order",
    [⟨"item", "http://example.org/item", some (.nested (.iri "http://example.org/ItemShape")), none, []⟩]⟩,
  ⟨.iri "http://example.org/PersonShape", "Person", "http://example.org/Person", []⟩,
  ⟨.iri "http://example.org/ItemShape", "Item", "http://example.org/Item", []⟩]

end Example

open Example in
/-- Of the shop's shapes only the order has to wait, and just until its items are placed. -/
theorem Precedence.order_least_of_orders_shop : (shopShapes.map (·.subject)).Nodup ∧ order shopShapes = .ok [0, 2, 3, 1] ∧
    Linearizes shopShapes [0, 2, 3, 1] ∧
    ∀ others, Linearizes shopShapes others → others = [0, 2, 3, 1] ∨ List.Lex (· < ·) [0, 2, 3, 1] others := by
  have hs : (shopShapes.map (·.subject)).Nodup := by decide
  have horder : order shopShapes = .ok [0, 2, 3, 1] := by decide +kernel
  exact ⟨hs, horder, (order_least_of_orders hs).2.1 _ horder⟩

end ShapeBinding
