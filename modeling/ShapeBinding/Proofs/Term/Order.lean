import ShapeBinding.Proofs.Text.Bytes
import ShapeBinding.Term.Order
/-!
# The order of terms as it reads

`Term.Before` says case by case when a term comes before another one: by kind, and within a kind by the bytes of its
texts.  It is what the library compares by (`Term.compare_eq_lt_iff`), so it is a strict total order, and sorting puts
distinct terms in this order (`Term.pairwise_before_sort`).  As no two terms come before each other, the sorted list is
determined by what is in it (`Term.sort_eq_of_pairwise`).
-/
namespace ShapeBinding

/-! ## What comes before -/

/-- A literal without a language comes before one that has a language. -/
inductive LanguageBefore : Option String → Option String → Prop
  | none (tag : String) : LanguageBefore none (some tag)
  | tags {tag tag' : String} (h : Utf8Before tag tag') : LanguageBefore (some tag) (some tag')

/-- Literals are ordered by lexical form, then by datatype, then by language. -/
inductive Literal.Before (a b : Literal) : Prop
  | lexical (h : Utf8Before a.lexical b.lexical) : Before a b
  | datatype (hl : a.lexical = b.lexical) (h : Utf8Before a.datatype b.datatype) : Before a b
  | language (hl : a.lexical = b.lexical) (hd : a.datatype = b.datatype) (h : LanguageBefore a.language b.language) :
      Before a b

/-- **The order of terms**: IRIs before blank nodes before literals. -/
inductive Term.Before : Term → Term → Prop
  | iris {i j : String} (h : Utf8Before i j) : Before (.iri i) (.iri j)
  | iri_blank (i label : String) : Before (.iri i) (.blank label)
  | iri_literal (i : String) (l : Literal) : Before (.iri i) (.literal l)
  | blanks {label label' : String} (h : Utf8Before label label') : Before (.blank label) (.blank label')
  | blank_literal (label : String) (l : Literal) : Before (.blank label) (.literal l)
  | literals {l l' : Literal} (h : l.Before l') : Before (.literal l) (.literal l')

/-! ## Comparing -/

theorem compare_string_eq_lt_iff {s t : String} : compare s t = .lt ↔ Utf8Before s t :=
  compareOfLessAndEq_eq_lt.trans utf8Before_iff.symm

theorem compare_language_eq_lt_iff {a b : Option String} : compare a b = .lt ↔ LanguageBefore a b := by
  cases a with
  | none =>
    cases b with
    | none => exact ⟨nofun, nofun⟩
    | some tag => exact ⟨fun _ => .none tag, fun _ => rfl⟩
  | some tag =>
    cases b with
    | none => exact ⟨nofun, nofun⟩
    | some tag' =>
      constructor
      · intro h
        exact .tags (compare_string_eq_lt_iff.1 h)
      · rintro ⟨⟩
        exact compare_string_eq_lt_iff.2 ‹_›

theorem compare_literal_eq_lt_iff {a b : Literal} : compare a b = .lt ↔ a.Before b := by
  rw [compare_literal]
  simp only [Ordering.then_eq_lt, compare_string_eq_lt_iff, compare_language_eq_lt_iff,
    Std.LawfulEqCmp.compare_eq_iff_eq]
  constructor
  · rintro (h | ⟨hl, h | ⟨hd, h⟩⟩)
    · exact .lexical h
    · exact .datatype hl h
    · exact .language hl hd h
  · rintro (h | ⟨hl, h⟩ | ⟨hl, hd, h⟩)
    · exact .inl h
    · exact .inr ⟨hl, .inl h⟩
    · exact .inr ⟨hl, .inr ⟨hd, h⟩⟩

namespace Term

variable {a b c : Term} {ts us : List Term}

/-- **Terms are compared by this order.** -/
theorem compare_eq_lt_iff : compare a b = .lt ↔ a.Before b := by
  cases a with
  | iri i =>
    cases b with
    | iri j =>
      rw [compare_iri, compare_string_eq_lt_iff]
      exact ⟨.iris, fun | .iris h => h⟩
    | blank label => exact ⟨fun _ => .iri_blank i label, fun _ => rfl⟩
    | literal l => exact ⟨fun _ => .iri_literal i l, fun _ => rfl⟩
  | blank label =>
    cases b with
    | iri j => exact ⟨nofun, nofun⟩
    | blank label' =>
      rw [compare_blank, compare_string_eq_lt_iff]
      exact ⟨.blanks, fun | .blanks h => h⟩
    | literal l => exact ⟨fun _ => .blank_literal label l, fun _ => rfl⟩
  | literal l =>
    cases b with
    | iri j => exact ⟨nofun, nofun⟩
    | blank label => exact ⟨nofun, nofun⟩
    | literal l' =>
      rw [Term.compare_literal, compare_literal_eq_lt_iff]
      exact ⟨.literals, fun | .literals h => h⟩

theorem Before.asymm (h : a.Before b) : ¬ b.Before a := by
  rw [← compare_eq_lt_iff] at h ⊢
  exact Std.OrientedCmp.not_lt_of_lt h

theorem Before.ne (h : a.Before b) : a ≠ b := by
  rintro rfl
  exact h.asymm h

theorem ble_iff : a.ble b = true ↔ a.Before b ∨ a = b := by
  rw [ble, Ordering.isLE_iff_eq_lt_or_eq_eq, compare_eq_lt_iff, Std.LawfulEqCmp.compare_eq_iff_eq]

theorem ble_antisymm (hab : a.ble b = true) (hba : b.ble a = true) : a = b := by
  rcases ble_iff.1 hab with hlt | heq
  · exact (ble_iff.1 hba).elim (fun hgt => absurd hgt hlt.asymm) Eq.symm
  · exact heq

/-! ## Sorting -/

theorem mem_sort {x : Term} : x ∈ Term.sort ts ↔ x ∈ ts := (Term.sort_perm ts).mem_iff

/-- **Sorted terms are in order**, each strictly before the next, if none stands twice. -/
theorem pairwise_before_sort (h : ts.Nodup) : (Term.sort ts).Pairwise Before := by
  have hnodup : (Term.sort ts).Pairwise (· ≠ ·) := (Term.sort_perm ts).nodup_iff.2 h
  refine ((Term.pairwise_sort ts).and hnodup).imp ?_
  rintro x y ⟨hle, hne⟩
  exact (ble_iff.1 hle).resolve_right hne

/-- **Terms in order are the sorted list of what they are.** -/
theorem sort_eq_of_pairwise (hts : ts.Nodup) (hus : us.Pairwise Before) (hmem : ∀ x, x ∈ us ↔ x ∈ ts) :
    Term.sort ts = us := by
  have hnodup : us.Nodup := hus.imp Before.ne
  have hperm : (Term.sort ts).Perm us :=
    (List.perm_ext_iff_of_nodup ((Term.sort_perm ts).nodup_iff.2 hts) hnodup).2 fun x => mem_sort.trans (hmem x).symm
  exact hperm.eq_of_pairwise (fun _ _ _ _ hab hba => absurd hba hab.asymm) (pairwise_before_sort hts) hus

/-- **Sorting forgets the order** in which terms were met. -/
theorem sort_congr (h : ts.Perm us) : Term.sort ts = Term.sort us := by
  have hperm : (Term.sort ts).Perm (Term.sort us) := (Term.sort_perm ts).trans (h.trans (Term.sort_perm us).symm)
  exact hperm.eq_of_pairwise (fun _ _ _ _ => ble_antisymm) (Term.pairwise_sort ts) (Term.pairwise_sort us)

end Term
end ShapeBinding
