import ShapeBinding.Term
/-!
# The order of terms

IRIs come before blank nodes and blank nodes before literals.  Literals are ordered by lexical form, then by datatype,
then by language, a literal without a language first.  Strings are ordered by code point, which is the order of their
UTF-8 bytes.  The order is total and agrees with equality (the two instances for `Term` below), so a sorted list of
distinct terms is determined by its elements.
-/
namespace ShapeBinding

/-! ## Literals -/

instance : Ord Literal where
  compare := compareLex (compareOn Literal.lexical)
    (compareLex (compareOn Literal.datatype) (compareOn Literal.language))

theorem compare_literal (a b : Literal) : compare a b =
    (compare a.lexical b.lexical).then ((compare a.datatype b.datatype).then (compare a.language b.language)) := rfl

instance : Std.TransOrd Literal :=
  inferInstanceAs (Std.TransCmp (compareLex (compareOn Literal.lexical)
    (compareLex (compareOn Literal.datatype) (compareOn Literal.language))))

instance : Std.LawfulEqOrd Literal where
  eq_of_compare {a b} h := by
    rw [compare_literal, Ordering.then_eq_eq, Ordering.then_eq_eq] at h
    obtain ⟨h₁, h₂, h₃⟩ := h
    cases a; cases b
    simp_all

/-! ## Terms -/

instance : Ord Term where
  compare
    | .iri a, .iri b => compare a b
    | .iri _, _ => .lt
    | .blank _, .iri _ => .gt
    | .blank a, .blank b => compare a b
    | .blank _, .literal _ => .lt
    | .literal a, .literal b => compare a b
    | .literal _, _ => .gt

namespace Term

theorem compare_iri (a b : String) : compare (iri a) (iri b) = compare a b := rfl

theorem compare_blank (a b : String) : compare (blank a) (blank b) = compare a b := rfl

theorem compare_literal (a b : Literal) : compare (literal a) (literal b) = compare a b := rfl

end Term

instance : Std.OrientedOrd Term where
  eq_swap {a b} :=
    match a, b with
    | .iri x, .iri y => Std.OrientedOrd.eq_swap (a := x) (b := y)
    | .blank x, .blank y => Std.OrientedOrd.eq_swap (a := x) (b := y)
    | .literal x, .literal y => Std.OrientedOrd.eq_swap (a := x) (b := y)
    | .iri _, .blank _ | .iri _, .literal _ | .blank _, .iri _ | .blank _, .literal _ | .literal _, .iri _
    | .literal _, .blank _ => rfl

instance : Std.TransOrd Term where
  isLE_trans {a b c} hab hbc :=
    match a, b, c, hab, hbc with
    | .iri x, .iri y, .iri z, hab, hbc => Std.TransOrd.isLE_trans (a := x) (b := y) (c := z) hab hbc
    | .blank x, .blank y, .blank z, hab, hbc => Std.TransOrd.isLE_trans (a := x) (b := y) (c := z) hab hbc
    | .literal x, .literal y, .literal z, hab, hbc => Std.TransOrd.isLE_trans (a := x) (b := y) (c := z) hab hbc
    | .iri _, _, .blank _, _, _ | .iri _, _, .literal _, _, _ | .blank _, _, .literal _, _, _ => rfl

instance : Std.LawfulEqOrd Term where
  eq_of_compare {a b} h :=
    match a, b, h with
    | .iri x, .iri y, h => congrArg Term.iri (Std.LawfulEqOrd.eq_of_compare (a := x) (b := y) h)
    | .blank x, .blank y, h => congrArg Term.blank (Std.LawfulEqOrd.eq_of_compare (a := x) (b := y) h)
    | .literal x, .literal y, h => congrArg Term.literal (Std.LawfulEqOrd.eq_of_compare (a := x) (b := y) h)

/-! ## Sorting -/

def Term.ble (a b : Term) : Bool := (compare a b).isLE

theorem Term.ble_trans (a b c : Term) (hab : a.ble b = true) (hbc : b.ble c = true) : a.ble c = true :=
  Std.TransOrd.isLE_trans hab hbc

theorem Term.ble_total (a b : Term) : (a.ble b || b.ble a) = true := by
  unfold Term.ble
  rw [Std.OrientedOrd.eq_swap (a := a) (b := b)]
  cases compare b a <;> rfl

def Term.sort (ts : List Term) : List Term := ts.mergeSort Term.ble

theorem Term.sort_perm (ts : List Term) : (Term.sort ts).Perm ts := List.mergeSort_perm ts Term.ble

theorem Term.pairwise_sort (ts : List Term) : (Term.sort ts).Pairwise fun a b => a.ble b = true :=
  List.pairwise_mergeSort Term.ble_trans Term.ble_total ts

end ShapeBinding
