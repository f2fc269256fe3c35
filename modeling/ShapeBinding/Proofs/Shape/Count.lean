import ShapeBinding.Proofs.Datatype.Integer
import ShapeBinding.Proofs.Shape.Rearranged
/-!
# Counts are read as integers are

The count of a property shape is read behind all its other parts, none of which depends on it
(`PropertyShape.ofPairs_eq_bind_readCount`).  A count in 32 bits is read from the forms that `xsd:nonNegativeInteger` is
read from, but for those that begin with a minus sign (`PropertyShape.read_count_iff_decode`): the zeros among these are
read under the datatype and are refused as counts (`PropertyShape.read_count_negativeZero`).
-/
namespace ShapeBinding

namespace PropertyShape

variable {shape name : String} {g : Graph} {node : Term} {pairs : List (Term × Term)}

/-! ## The other parts -/

/-- What is said of a node, but for its counts. -/
def withoutCounts (pairs : List (Term × Term)) : List (Term × Term) := pairs.filter fun p => p.1 ≠ .iri Sh.maxCount

theorem valuesOf_withoutCounts {predicate : String} (h : predicate ≠ Sh.maxCount) :
    valuesOf predicate (withoutCounts pairs) = valuesOf predicate pairs := by
  unfold valuesOf withoutCounts
  rw [List.filter_filter]
  congr 1
  apply List.filter_congr
  intro p _
  by_cases hp : p.1 = .iri predicate <;> simp [hp, h]

theorem valuesOf_maxCount_withoutCounts : valuesOf Sh.maxCount (withoutCounts pairs) = [] := by
  unfold valuesOf withoutCounts
  rw [List.map_eq_nil_iff, List.filter_filter, List.filter_eq_nil_iff]
  simp

theorem filter_withoutCounts :
    (withoutCounts pairs).filter (fun p => p.1 ∉ understood) = pairs.filter fun p => p.1 ∉ understood := by
  unfold withoutCounts
  rw [List.filter_filter]
  apply List.filter_congr
  intro p _
  by_cases hp : p.1 = .iri Sh.maxCount <;> simp [hp, understood]

/-- **The count is read last**, and nothing else depends on it. -/
theorem ofPairs_eq_bind_readCount (shape : String) (node : Term) (pairs : List (Term × Term)) :
    ofPairs shape node pairs = ofPairs shape node (withoutCounts pairs) >>= fun q =>
      readCount shape q.name (valuesOf Sh.maxCount pairs) >>= fun max => .ok { q with maxCount := max } := by
  have hname : Sh.name ≠ Sh.maxCount := by decide
  have hpath : Sh.path ≠ Sh.maxCount := by decide
  have hdatatype : Sh.datatype ≠ Sh.maxCount := by decide
  have hnode : Sh.node ≠ Sh.maxCount := by decide
  unfold ofPairs
  rw [valuesOf_withoutCounts hname, valuesOf_withoutCounts hpath, valuesOf_withoutCounts hdatatype,
    valuesOf_withoutCounts hnode, valuesOf_maxCount_withoutCounts, filter_withoutCounts]
  cases firstText? (valuesOf Sh.name pairs) with
  | none => rfl
  | some name =>
    -- all is read alike on both sides, or refused alike, up to the counts
    simp only [bind, Except.bind]
    cases readPath shape name node (valuesOf Sh.path pairs) with
    | error _ => rfl
    | ok path =>
      cases readKind shape name (valuesOf Sh.datatype pairs) (valuesOf Sh.node pairs) with
      | error _ => rfl
      | ok kind => rfl

/-! ## The count -/

section Count

variable {l : Literal} {q : PropertyShape}

/-- Where all but the count can be read, the count is what is left to be read. -/
theorem read_eq_map_readCount (hcount : g.objects node (.iri Sh.maxCount) = [.literal l])
    (hrest : ofPairs shape node (withoutCounts (g.predicateObjects node)) = .ok q) :
    read g shape node = (readCount shape q.name [.literal l]).map fun max => { q with maxCount := max } := by
  rw [read, ofPairs_eq_bind_readCount, hrest, valuesOf_predicateObjects, hcount]
  rfl

theorem read_eq_ok_iff_readMaxCount? {max : UInt32} (hcount : g.objects node (.iri Sh.maxCount) = [.literal l])
    (hrest : ofPairs shape node (withoutCounts (g.predicateObjects node)) = .ok q) :
    read g shape node = .ok { q with maxCount := some max } ↔ readMaxCount? (.literal l) = some max := by
  rw [read_eq_map_readCount hcount hrest, readCount]
  cases readMaxCount? (.literal l) <;> simp [Except.map]

theorem read_eq_error_of_readMaxCount? (hcount : g.objects node (.iri Sh.maxCount) = [.literal l])
    (hrest : ofPairs shape node (withoutCounts (g.predicateObjects node)) = .ok q)
    (hnone : ∀ max, readMaxCount? (.literal l) ≠ some max) :
    read g shape node = .error (.invalidMaxCount shape q.name (.literal l)) := by
  rw [read_eq_map_readCount hcount hrest, readCount, Option.eq_none_iff_forall_ne_some.2 hnone]
  rfl

/-- **A count is read as a non-negative integer is**, but for a minus sign.  Of a node that can be read without its one
count, which is a literal, the count is accepted as a number of 32 bits just if `xsd:nonNegativeInteger` reads that
number and no minus sign stands before it.  What the datatype does not read, or what is too large, is refused as a
count; and so is what begins with a minus sign, of which the datatype reads nothing but zero. -/
theorem read_count_iff_decode (hcount : g.objects node (.iri Sh.maxCount) = [.literal l])
    (hrest : ofPairs shape node (withoutCounts (g.predicateObjects node)) = .ok q) :
    (∀ max : UInt32, read g shape node = .ok { q with maxCount := some max } ↔
      (∃ n : Int64, Datatypes.builtin.decode Xsd.nonNegativeInteger l.lexical = .ok (.integer n) ∧
        n.toInt = max.toNat) ∧ l.lexical.toList.head? ≠ some '-') ∧
    ((∀ n : Int64, Datatypes.builtin.decode Xsd.nonNegativeInteger l.lexical = .ok (.integer n) → 2 ^ 32 ≤ n.toInt) →
      read g shape node = .error (.invalidMaxCount shape q.name (.literal l))) ∧
    (l.lexical.toList.head? = some '-' →
      read g shape node = .error (.invalidMaxCount shape q.name (.literal l)) ∧
        ∀ n : Int64, Datatypes.builtin.decode Xsd.nonNegativeInteger l.lexical = .ok (.integer n) → n = 0) := by
  -- a form of a number of 32 bits is read under the datatype as that number
  have hform : ∀ max : UInt32, IntegerForm l.lexical.toList max.toNat ↔ ∃ n : Int64,
      Datatypes.builtin.decode Xsd.nonNegativeInteger l.lexical = .ok (.integer n) ∧ n.toInt = max.toNat := by
    intro max
    simp only [Datatypes.decode_nonNegativeInteger_eq_integer_iff]
    constructor
    · intro hform
      have := max.toNat_lt
      obtain ⟨n, hn⟩ : ∃ n : Int64, n.toInt = max.toNat := ⟨_, Int64.toInt_ofInt_of_le (by omega) (by omega)⟩
      exact ⟨n, ⟨hn ▸ hform, by omega⟩, hn⟩
    · rintro ⟨n, ⟨hform, -⟩, hn⟩
      exact hn ▸ hform
  refine ⟨fun max => ?_, fun hlarge => ?_, fun hminus => ⟨?_, fun n hn => ?_⟩⟩
  · rw [read_eq_ok_iff_readMaxCount? hcount hrest, readMaxCount?_eq_some_iff, hform]
  · refine read_eq_error_of_readMaxCount? hcount hrest fun max hmax => ?_
    obtain ⟨n, hread, hn⟩ := (hform max).1 (readMaxCount?_eq_some_iff.1 hmax).1
    have := hlarge n hread
    have := max.toNat_lt
    omega
  · exact read_eq_error_of_readMaxCount? hcount hrest fun max hmax => (readMaxCount?_eq_some_iff.1 hmax).2 hminus
  · obtain ⟨ds, hds⟩ := List.head?_eq_some_iff.1 hminus
    have hsplit : splitSign l.lexical.toList = (true, ds) := by rw [hds]; rfl
    rw [Datatypes.decode_nonNegativeInteger_eq_integer_iff, integerForm_iff_of_splitSign hsplit, if_pos rfl] at hn
    exact Int64.toInt_inj.1 (by simp; omega)

end Count

end PropertyShape

namespace Example

/-- What is said of the pages of a memo: a name, a path, and a greatest number with this lexical form. -/
def pagesTriples (count : String) : List Triple := [
  ⟨.blank "pages", .iri Sh.name, .string "pages"⟩,
  ⟨.blank "pages", .iri Sh.maxCount, .typed count Xsd.integer⟩,
  ⟨.blank "pages", .iri Sh.path, .iri "http://example.org/pages"⟩]

/-- The pages of a memo, but for their greatest number. -/
def pages : PropertyShape := ⟨"pages", "http://example.org/pages", none, none, []⟩

end Example

namespace PropertyShape

open Example

/-- A plus sign and leading zeros are read in a count as they are in an integer. -/
theorem read_count_iff_decode_pages :
    (Graph.ofList (pagesTriples "+007")).objects (.blank "pages") (.iri Sh.maxCount) = [.typed "+007" Xsd.integer] ∧
    ofPairs "Memo" (.blank "pages") (withoutCounts ((Graph.ofList (pagesTriples "+007")).predicateObjects
      (.blank "pages"))) = .ok pages ∧
    Datatypes.builtin.decode Xsd.nonNegativeInteger "+007" = .ok (.integer 7) ∧
    read (.ofList (pagesTriples "+007")) "Memo" (.blank "pages") = .ok { pages with maxCount := some 7 } := by
  have hcount : (Graph.ofList (pagesTriples "+007")).objects (.blank "pages") (.iri Sh.maxCount) =
      [.literal ⟨"+007", Xsd.integer, none⟩] := by decide +kernel
  have hrest : ofPairs "Memo" (.blank "pages") (withoutCounts ((Graph.ofList (pagesTriples "+007")).predicateObjects
      (.blank "pages"))) = .ok pages := by decide +kernel
  have hdecode : Datatypes.builtin.decode Xsd.nonNegativeInteger "+007" = .ok (.integer 7) :=
    Datatypes.decode_nonNegativeInteger_eq_integer_iff.2 ⟨@IntegerForm.plus "007".toList (by decide), by decide⟩
  obtain ⟨hread, -, -⟩ := read_count_iff_decode hcount hrest
  exact ⟨hcount, hrest, hdecode, (hread 7).2 ⟨⟨7, hdecode, rfl⟩, by decide⟩⟩

/-- **A negative zero is refused as a count**, although `xsd:nonNegativeInteger` reads it as zero. -/
theorem read_count_negativeZero :
    Datatypes.builtin.decode Xsd.nonNegativeInteger "-0" = .ok (.integer 0) ∧
    (Graph.ofList (pagesTriples "-0")).objects (.blank "pages") (.iri Sh.maxCount) = [.typed "-0" Xsd.integer] ∧
    read (.ofList (pagesTriples "-0")) "Memo" (.blank "pages") =
      .error (.invalidMaxCount "Memo" "pages" (.typed "-0" Xsd.integer)) := by
  refine ⟨?_, by decide +kernel, by decide +kernel⟩
  exact Datatypes.decode_nonNegativeInteger_eq_integer_iff.2 ⟨@IntegerForm.minus "0".toList (by decide), by decide⟩

end PropertyShape
end ShapeBinding
