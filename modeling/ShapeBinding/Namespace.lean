import ShapeBinding.Call
import ShapeBinding.Fault
import ShapeBinding.Text.Numeral
import ShapeBinding.Text.Quoted
import ShapeBinding.Vocabulary
/-!
# Namespaces

A table binds labels to base IRIs.  It shortens an IRI to a qualified name with the longest base that begins the IRI,
and of several labels for one base takes the least; it expands `label:name` back.  The entries are kept in that order of
preference, longer bases first, and no label is bound twice, both by the type: so the first entry that fits is the one
to take, and a table is determined by the set of its entries.
-/
namespace ShapeBinding

/-! ## Qualified names -/

structure QName where
  label : String
  name : String
  deriving DecidableEq, Repr

def QName.text (q : QName) : String := q.label ++ ":" ++ q.name

/-! ## Entries and their order -/

structure Namespace where
  label : String
  base : String
  deriving DecidableEq, Repr

namespace Namespace

/-- The order of preference: longer bases first, in bytes, and labels in ascending order. -/
def Precedes (a b : Namespace) : Prop :=
  b.base.utf8ByteSize < a.base.utf8ByteSize ∨ (a.base.utf8ByteSize = b.base.utf8ByteSize ∧ a.label < b.label)

instance (a b : Namespace) : Decidable (a.Precedes b) := inferInstanceAs (Decidable (_ ∨ _))

theorem Precedes.trans {a b c : Namespace} (hab : a.Precedes b) (hbc : b.Precedes c) : a.Precedes c := by
  unfold Precedes at *
  rcases hab with h | ⟨h, hl⟩ <;> rcases hbc with h' | ⟨h', hl'⟩
  · omega
  · omega
  · omega
  · exact .inr ⟨h.trans h', String.lt_trans hl hl'⟩

theorem precedes_of_not {a b : Namespace} (hl : a.label ≠ b.label) (h : ¬ a.Precedes b) : b.Precedes a := by
  unfold Precedes at *
  rcases Nat.lt_trichotomy a.base.utf8ByteSize b.base.utf8ByteSize with hs | hs | hs
  · exact .inl hs
  · refine .inr ⟨hs.symm, ?_⟩
    have hle : b.label ≤ a.label := String.not_lt.1 fun hlt => h (.inr ⟨hs, hlt⟩)
    exact Classical.byContradiction fun hn => hl (String.le_antisymm (String.not_lt.1 hn) hle)
  · exact absurd (.inl hs) h

/-- Puts an entry where it belongs among entries in order. -/
def insertSorted (n : Namespace) : List Namespace → List Namespace
  | [] => [n]
  | e :: es => if n.Precedes e then n :: e :: es else e :: insertSorted n es

theorem insertSorted_perm (n : Namespace) : ∀ es : List Namespace, (insertSorted n es).Perm (n :: es)
  | [] => .refl _
  | e :: es => by
    unfold insertSorted
    split
    · exact .refl _
    · exact ((insertSorted_perm n es).cons e).trans (.swap n e es)

theorem mem_insertSorted {n x : Namespace} {es : List Namespace} : x ∈ insertSorted n es ↔ x = n ∨ x ∈ es := by
  rw [(insertSorted_perm n es).mem_iff, List.mem_cons]

theorem pairwise_insertSorted {n : Namespace} : ∀ {es : List Namespace}, es.Pairwise Precedes →
    (∀ e ∈ es, n.label ≠ e.label) → (insertSorted n es).Pairwise Precedes
  | [], _, _ => List.pairwise_singleton _ _
  | e :: es, h, hn => by
    rw [List.pairwise_cons] at h
    unfold insertSorted
    split
    · rename_i hp
      rw [List.pairwise_cons, List.pairwise_cons]
      refine ⟨fun x hx => ?_, h⟩
      rcases List.mem_cons.1 hx with rfl | hx
      · exact hp
      · exact hp.trans (h.1 x hx)
    · rename_i hp
      rw [List.pairwise_cons]
      refine ⟨fun x hx => ?_, pairwise_insertSorted h.2 fun x hx => hn x (List.mem_cons_of_mem e hx)⟩
      rcases mem_insertSorted.1 hx with rfl | hx
      · exact precedes_of_not (hn e (List.mem_cons_self ..)) hp
      · exact h.1 x hx

/-- The entries in order. -/
def sorted (es : List Namespace) : List Namespace := es.foldr insertSorted []

theorem sorted_perm : ∀ es : List Namespace, (sorted es).Perm es
  | [] => .nil
  | e :: es => (insertSorted_perm e (sorted es)).trans ((sorted_perm es).cons e)

theorem pairwise_sorted : ∀ {es : List Namespace}, (es.map (·.label)).Nodup → (sorted es).Pairwise Precedes
  | [], _ => .nil
  | e :: es, h => by
    rw [List.map_cons, List.nodup_cons] at h
    refine pairwise_insertSorted (pairwise_sorted h.2) fun x hx hl => h.1 ?_
    rw [hl]
    exact List.mem_map_of_mem ((sorted_perm es).mem_iff.1 hx)

end Namespace

/-! ## Tables -/

structure Namespaces where
  entries : List Namespace
  ordered : entries.Pairwise Namespace.Precedes
  labels_nodup : (entries.map (·.label)).Nodup
  deriving DecidableEq

/-- A label that is bound to one base and cannot be bound to another. -/
structure LabelConflict where
  label : String
  existing : String
  base : String
  deriving DecidableEq, Repr

namespace LabelConflict

def code (_ : LabelConflict) : FaultCode := .duplicate

def detail (c : LabelConflict) : String :=
  "prefix " ++ quoted c.label ++ " is bound to " ++ c.existing ++ ", cannot rebind to " ++ c.base

def message (c : LabelConflict) : String := c.code.label ++ c.detail

end LabelConflict

namespace Namespaces

def empty : Namespaces := ⟨[], .nil, .nil⟩

instance : EmptyCollection Namespaces := ⟨empty⟩

instance : Inhabited Namespaces := ⟨empty⟩

/-- The table of entries that have different labels. -/
def ofEntries (es : List Namespace) (h : (es.map (·.label)).Nodup) : Namespaces where
  entries := Namespace.sorted es
  ordered := Namespace.pairwise_sorted h
  labels_nodup := ((Namespace.sorted_perm es).map _).nodup_iff.2 h

/-- The table of the names that need no declaration. -/
def defaults : Namespaces := ofEntries (defaultNamespaces.map fun p => ⟨p.1, p.2⟩) (by decide)

def size (t : Namespaces) : Nat := t.entries.length

def isEmpty (t : Namespaces) : Bool := t.entries.isEmpty

def base? (t : Namespaces) (label : String) : Option String := (t.entries.find? (·.label = label)).map (·.base)

theorem label_ne_of_base?_eq_none {t : Namespaces} {label : String} (h : t.base? label = none) :
    ∀ e ∈ t.entries, label ≠ e.label := by
  intro e he hl
  simp only [base?, Option.map_eq_none_iff, List.find?_eq_none, decide_eq_true_eq] at h
  exact h e he hl.symm

/-- The table with an entry more. -/
def add (t : Namespaces) (n : Namespace) (h : t.base? n.label = none) : Namespaces where
  entries := Namespace.insertSorted n t.entries
  ordered := Namespace.pairwise_insertSorted t.ordered (label_ne_of_base?_eq_none h)
  labels_nodup := by
    rw [((Namespace.insertSorted_perm _ _).map _).nodup_iff, List.map_cons, List.nodup_cons]
    refine ⟨fun hm => ?_, t.labels_nodup⟩
    obtain ⟨e, he, hl⟩ := List.mem_map.1 hm
    exact label_ne_of_base?_eq_none h e he hl.symm

/-- The call that binds a label.  Binding it again to the base it has changes nothing; to another base is a conflict. -/
def insertCall (label base : String) : Call Namespaces LabelConflict Unit := do
  let t ← getThe Namespaces
  match h : t.base? label with
  | some existing => if existing = base then pure () else throw ⟨label, existing, base⟩
  | none => set (t.add ⟨label, base⟩ h)

/-- The table after its call was accepted. -/
def insert (t : Namespaces) (label base : String) : Except LabelConflict Namespaces := (insertCall label base).result t

def insertAll (t : Namespaces) (pairs : List (String × String)) : Except LabelConflict Namespaces :=
  pairs.foldlM (fun t p => t.insert p.1 p.2) t

def ofPairs (pairs : List (String × String)) : Except LabelConflict Namespaces := empty.insertAll pairs

def qualify? (t : Namespaces) (iri : String) : Option QName :=
  t.entries.findSome? fun e =>
    (List.isPrefixOf? e.base.toList iri.toList).map fun rest => ⟨e.label, String.ofList rest⟩

/-- The IRI that `label:name` stands for; the name is what follows the first colon. -/
def expand? (t : Namespaces) (curie : String) : Option String :=
  (cutAt ':' curie.toList).bind fun p => (t.base? (String.ofList p.1)).map (· ++ String.ofList p.2)

end Namespaces
end ShapeBinding
