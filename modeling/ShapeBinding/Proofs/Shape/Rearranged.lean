import ShapeBinding.Proofs.Shape
/-!
# Property shapes rearranged

What is said of a property node is a set of pairs, and a graph holds it in some order.  Of that order a reading keeps
only the order of the constraints: every other part is read from the objects of one predicate, and where the first of
them would count there is one at most (`SaidOnce`).  So two graphs with the same triples of a node read it alike
(`ofPairs_perm`), up to the count that is shown when there are several.  What has to be said of a node that is read
(`Readable`) is known from the triples, an accepted reading has dealt out all the pairs (`accounts_of_read`), and two
kinds are refused whichever they are (`read_eq_conflict`).
-/
namespace ShapeBinding

/-- There is nothing to rearrange where all elements are equal. -/
theorem eq_of_perm_of_unique {α : Type} {as bs : List α} (h : as.Perm bs) (hone : ∀ a ∈ as, ∀ b ∈ as, a = b) :
    as = bs := by
  have hall : ∀ cs : List α, cs.Pairwise fun _ _ => True := fun cs => List.pairwise_of_forall fun _ _ => trivial
  exact h.eq_of_pairwise (fun a b ha hb _ _ => hone a ha b (h.symm.subset hb)) (hall as) (hall bs)

/-! ## Faults and outcomes -/

/-- **The same fault** of the same shape and property.  Only which of several counts is shown may differ. -/
inductive CompileError.SameFault : CompileError → CompileError → Prop
  | same (e : CompileError) : SameFault e e
  | maxCount (shape property : String) (value value' : Term) :
    SameFault (.invalidMaxCount shape property value) (.invalidMaxCount shape property value')

/-- Both are accepted with answers that are related, or both are refused for the same fault. -/
inductive SameOutcome {α : Type} (R : α → α → Prop) : Except CompileError α → Except CompileError α → Prop
  | ok {a b : α} (h : R a b) : SameOutcome R (.ok a) (.ok b)
  | error {e e' : CompileError} (h : e.SameFault e') : SameOutcome R (.error e) (.error e')

namespace SameOutcome

variable {α β : Type}

theorem refl (x : Except CompileError α) : SameOutcome Eq x x := by
  cases x with
  | ok a => exact .ok rfl
  | error e => exact .error (.same e)

/-- A step after the same outcome has the same outcome, if it has on every answer. -/
theorem bind {R : β → β → Prop} {x y : Except CompileError α} {f g : α → Except CompileError β}
    (h : SameOutcome Eq x y) (hstep : ∀ a, SameOutcome R (f a) (g a)) : SameOutcome R (x >>= f) (y >>= g) := by
  cases h with
  | ok h =>
    subst h
    exact hstep _
  | error h => exact .error h

end SameOutcome

namespace PropertyShape

variable {shape name : String} {g : Graph} {node : Term}

/-! ## Names and paths -/

theorem mem_of_firstText? {ts : List Term} {text : String} (h : firstText? ts = some text) :
    ∃ l, .literal l ∈ ts ∧ l.lexical = text := by
  obtain ⟨t, ht, hl⟩ := List.exists_of_findSome?_eq_some h
  obtain ⟨l, hliteral, rfl⟩ := Option.map_eq_some_iff.1 hl
  exact ⟨l, Term.literal?_eq_some_iff.1 hliteral ▸ ht, rfl⟩

theorem firstText?_of_mem {ts : List Term} {l : Literal} (h : .literal l ∈ ts)
    (hone : ∀ l l', .literal l ∈ ts → .literal l' ∈ ts → l = l') : firstText? ts = some l.lexical := by
  cases htext : firstText? ts with
  | none =>
    rw [firstText?, List.findSome?_eq_none_iff] at htext
    cases htext _ h
  | some text =>
    obtain ⟨l', hl', rfl⟩ := mem_of_firstText? htext
    rw [hone l l' h hl']

theorem firstText?_perm {ts ts' : List Term} (h : ts.Perm ts')
    (hone : ∀ l l', .literal l ∈ ts → .literal l' ∈ ts → l = l') : firstText? ts = firstText? ts' := by
  cases htext : firstText? ts' with
  | none =>
    rw [firstText?, List.findSome?_eq_none_iff] at htext ⊢
    exact fun t ht => htext t (h.subset ht)
  | some text =>
    obtain ⟨l, hl, rfl⟩ := mem_of_firstText? htext
    exact firstText?_of_mem (h.symm.subset hl) hone

theorem mem_of_readPath {xs : List Term} {path : String} (h : readPath shape name node xs = .ok path) :
    .iri path ∈ xs := by
  unfold readPath at h
  split at h <;> cases h
  exact List.mem_cons_self ..

theorem readPath_of_mem {xs : List Term} {path : String} (h : .iri path ∈ xs)
    (hone : ∀ x ∈ xs, ∀ y ∈ xs, x = y) : readPath shape name node xs = .ok path := by
  match xs with
  | x :: xs =>
    rw [hone x (List.mem_cons_self ..) _ h]
    rfl

/-! ## Kinds -/

/-- **Two kinds are in conflict**, whichever they are. -/
theorem readKind_eq_conflict {datatypes nodes : List Term} (h : 1 < datatypes.length + nodes.length) :
    readKind shape name datatypes nodes = .error (.conflictingKind shape name) := by
  unfold readKind
  split <;> simp_all

theorem readKind_perm {datatypes datatypes' nodes nodes' : List Term} (hd : datatypes.Perm datatypes')
    (hn : nodes.Perm nodes') : readKind shape name datatypes nodes = readKind shape name datatypes' nodes' := by
  by_cases h : datatypes.length + nodes.length ≤ 1
  · rw [eq_of_perm_of_length hd (by omega), eq_of_perm_of_length hn (by omega)]
  · have h' : ¬ datatypes'.length + nodes'.length ≤ 1 := by rwa [← hd.length_eq, ← hn.length_eq]
    rw [readKind_eq_conflict (by omega), readKind_eq_conflict (by omega)]

theorem exists_readKind_iff (shape name : String) {datatypes nodes : List Term} :
    (∃ kind, readKind shape name datatypes nodes = .ok kind) ↔
      datatypes.length + nodes.length ≤ 1 ∧ ∀ y ∈ datatypes, ∃ iri, y = .iri iri := by
  simp only [readKind_eq_ok_iff]
  match datatypes, nodes with
  | [], [] => simp
  | [y], [] => simp
  | [], [y] => simp
  | [], _ :: _ :: _ => simp
  | y :: ys, z :: zs =>
    have hlength : ¬ (y :: ys).length + (z :: zs).length ≤ 1 := by
      simp only [List.length_cons]
      omega
    simp [-List.length_cons, hlength]
  | _ :: _ :: _, [] => simp

theorem mem_datatypes_of_readKind {datatypes nodes : List Term} {kind : Option (ValueKind Term)}
    (h : readKind shape name datatypes nodes = .ok kind) (y : Term) :
    y ∈ datatypes ↔ ∃ datatype, y = .iri datatype ∧ kind = some (.datatype datatype) := by
  rcases readKind_eq_ok_iff.1 h with ⟨rfl, rfl, rfl⟩ | ⟨datatype, rfl, rfl, rfl⟩ | ⟨reference, rfl, rfl, rfl⟩ <;>
    simp [eq_comm]

/-! ## Counts -/

theorem readCount_eq_ok_iff {counts : List Term} {maxCount : Option UInt32} :
    readCount shape name counts = .ok maxCount ↔ counts = [] ∧ maxCount = none ∨
      ∃ y max, counts = [y] ∧ readMaxCount? y = some max ∧ maxCount = some max := by
  match counts with
  | [] => simp [readCount, eq_comm]
  | [y] => cases hy : readMaxCount? y <;> simp [readCount, hy, eq_comm]
  | _ :: _ :: _ => simp [readCount]

theorem exists_readCount_iff (shape name : String) {counts : List Term} :
    (∃ maxCount, readCount shape name counts = .ok maxCount) ↔
      counts.length ≤ 1 ∧ ∀ y ∈ counts, ∃ max, readMaxCount? y = some max := by
  simp only [readCount_eq_ok_iff]
  match counts with
  | [] => simp
  | [y] => simp
  | _ :: _ :: _ => simp

theorem mem_counts_of_readCount {counts : List Term} {maxCount : Option UInt32}
    (h : readCount shape name counts = .ok maxCount) (max : UInt32) :
    maxCount = some max ↔ ∃ y ∈ counts, readMaxCount? y = some max := by
  rcases readCount_eq_ok_iff.1 h with ⟨rfl, rfl⟩ | ⟨y, m, rfl, hm, rfl⟩
  · simp
  · simp [hm]

theorem readCount_eq_error (shape name : String) {counts : List Term} (h : 1 < counts.length) :
    ∃ value, readCount shape name counts = .error (.invalidMaxCount shape name value) := by
  match counts with
  | _ :: second :: _ => exact ⟨second, rfl⟩

theorem readCount_perm {counts counts' : List Term} (h : counts.Perm counts') :
    SameOutcome Eq (readCount shape name counts) (readCount shape name counts') := by
  by_cases hcounts : counts.length ≤ 1
  · rw [eq_of_perm_of_length h hcounts]
    exact .refl _
  · have hcounts' : ¬ counts'.length ≤ 1 := by rwa [← h.length_eq]
    obtain ⟨value, hvalue⟩ := readCount_eq_error shape name (Nat.lt_of_not_le hcounts)
    obtain ⟨value', hvalue'⟩ := readCount_eq_error shape name (Nat.lt_of_not_le hcounts')
    rw [hvalue, hvalue']
    exact .error (.maxCount shape name value value')

/-! ## Reading rearranged pairs -/

/-- The same property shape, but for the order of its constraints. -/
structure Rearranged (q q' : PropertyShape) : Prop where
  name : q.name = q'.name
  path : q.path = q'.path
  kind : q.kind = q'.kind
  maxCount : q.maxCount = q'.maxCount
  constraints : q.constraints.Perm q'.constraints

/-- **Pairs in another order are read alike**, if one literal at most is a name and one object at most is a path. -/
theorem ofPairs_perm {pairs pairs' : List (Term × Term)} (h : pairs.Perm pairs')
    (hname : ∀ l l', (.iri Sh.name, .literal l) ∈ pairs → (.iri Sh.name, .literal l') ∈ pairs → l = l')
    (hpath : ∀ x y, (.iri Sh.path, x) ∈ pairs → (.iri Sh.path, y) ∈ pairs → x = y) :
    SameOutcome Rearranged (ofPairs shape node pairs) (ofPairs shape node pairs') := by
  simp only [← mem_valuesOf] at hname hpath
  have hnames := firstText?_perm (valuesOf_perm h Sh.name) hname
  have hpaths := eq_of_perm_of_unique (valuesOf_perm h Sh.path) fun x hx y hy => hpath x y hx hy
  have hkinds : ∀ name, readKind shape name (valuesOf Sh.datatype pairs) (valuesOf Sh.node pairs) =
      readKind shape name (valuesOf Sh.datatype pairs') (valuesOf Sh.node pairs') := fun _ =>
    readKind_perm (valuesOf_perm h Sh.datatype) (valuesOf_perm h Sh.node)
  -- all is read from equal lists up to the counts, of which another may be told
  unfold ofPairs
  simp only [← hnames, ← hpaths, ← hkinds]
  cases firstText? (valuesOf Sh.name pairs) with
  | none => exact .error (.same _)
  | some name =>
    refine (SameOutcome.refl _).bind fun name => (SameOutcome.refl _).bind fun path => ?_
    refine (SameOutcome.refl _).bind fun kind => (readCount_perm (valuesOf_perm h Sh.maxCount)).bind fun max => ?_
    exact .ok ⟨rfl, rfl, rfl, rfl, h.filter _⟩

/-! ## What is said of a node -/

/-- One literal at most is a name of the node, and one object at most is its path. -/
structure SaidOnce (g : Graph) (node : Term) : Prop where
  name : ∀ l l', ⟨node, .iri Sh.name, .literal l⟩ ∈ g.toList → ⟨node, .iri Sh.name, .literal l'⟩ ∈ g.toList → l = l'
  path : ∀ x y, ⟨node, .iri Sh.path, x⟩ ∈ g.toList → ⟨node, .iri Sh.path, y⟩ ∈ g.toList → x = y

/-- The triples that say a kind of the node, by a datatype or by a nested shape. -/
def kindTriples (g : Graph) (node : Term) : List Triple :=
  g.toList.filter fun t => t.subject = node ∧ (t.predicate = .iri Sh.datatype ∨ t.predicate = .iri Sh.node)

/-- **A node is readable** if it has a name and a path, one kind at most, a datatype being an IRI, and one count at
most, which can be read. -/
structure Readable (g : Graph) (node : Term) : Prop where
  name : ∃ l, ⟨node, .iri Sh.name, .literal l⟩ ∈ g.toList
  path : ∃ iri, ⟨node, .iri Sh.path, .iri iri⟩ ∈ g.toList
  kinds : (kindTriples g node).length ≤ 1
  datatype : ∀ y, ⟨node, .iri Sh.datatype, y⟩ ∈ g.toList → ∃ iri, y = .iri iri
  counts : (g.objects node (.iri Sh.maxCount)).length ≤ 1
  count : ∀ y, ⟨node, .iri Sh.maxCount, y⟩ ∈ g.toList → ∃ max, readMaxCount? y = some max

/-- **What the graph says of the node is all accounted for**: a pair under a predicate that is not understood is a
constraint, once and in graph order, and the others say the name, the path, the kind and the count. -/
structure Accounts (q : PropertyShape) (g : Graph) (node : Term) : Prop where
  name : ∃ l, ⟨node, .iri Sh.name, .literal l⟩ ∈ g.toList ∧ l.lexical = q.name
  path : ⟨node, .iri Sh.path, .iri q.path⟩ ∈ g.toList
  datatype : ∀ y, ⟨node, .iri Sh.datatype, y⟩ ∈ g.toList ↔ ∃ datatype, y = .iri datatype ∧
    q.kind = some (.datatype datatype)
  nested : ∀ y, ⟨node, .iri Sh.node, y⟩ ∈ g.toList ↔ q.kind = some (.nested y)
  unsaid : q.kind = none ↔ ∀ y, ⟨node, .iri Sh.datatype, y⟩ ∉ g.toList ∧ ⟨node, .iri Sh.node, y⟩ ∉ g.toList
  maxCount : ∀ max, q.maxCount = some max ↔
    ∃ y, ⟨node, .iri Sh.maxCount, y⟩ ∈ g.toList ∧ readMaxCount? y = some max
  constraints : q.constraints = (g.toList.filter fun t => t.subject = node ∧ t.predicate ∉ understood).map
    fun t => (t.predicate, t.object)
  nodup : q.constraints.Nodup

theorem valuesOf_predicateObjects (g : Graph) (node : Term) (predicate : String) :
    valuesOf predicate (g.predicateObjects node) = g.objects node (.iri predicate) :=
  (g.objects_eq_filter_predicateObjects node (.iri predicate)).symm

theorem length_kindTriples (g : Graph) (node : Term) : (kindTriples g node).length =
    (g.objects node (.iri Sh.datatype)).length + (g.objects node (.iri Sh.node)).length := by
  have hne : Sh.datatype ≠ Sh.node := by decide
  rw [Graph.objects_eq_objectsIn, Graph.objects_eq_objectsIn, kindTriples, objectsIn, objectsIn, List.length_map,
    List.length_map]
  induction g.toList with
  | nil => rfl
  | cons t ts ih =>
    by_cases hs : t.subject = node <;> by_cases hd : t.predicate = .iri Sh.datatype <;>
      by_cases hn : t.predicate = .iri Sh.node <;> simp_all <;> omega

/-! ## Which nodes are read, and what of them -/

theorem accounts_of_read {q : PropertyShape} (h : read g shape node = .ok q) : q.Accounts g node := by
  obtain ⟨hname, hpath, hkind, hcount, hconstraints⟩ := ofPairs_eq_ok_iff.1 h
  have hname := mem_of_firstText? hname
  have hpath := mem_of_readPath hpath
  have hdatatype := mem_datatypes_of_readKind hkind
  have hnested := mem_nodes_of_readKind hkind
  have hcount := mem_counts_of_readCount hcount
  simp only [mem_valuesOf, Graph.mem_predicateObjects] at hname hpath hdatatype hnested hcount
  refine ⟨hname, hpath, hdatatype, hnested, ?_, hcount, ?_, ?_⟩
  · simp only [hdatatype, hnested]
    constructor
    · intro hnone
      simp [hnone]
    · intro hunsaid
      cases hk : q.kind with
      | none => rfl
      | some kind => cases kind <;> simp_all
  · rw [hconstraints, Graph.predicateObjects_eq_pairsIn, pairsIn, List.filter_map, List.filter_filter]
    simp [Bool.and_comm]
  · rw [hconstraints]
    exact (g.nodup_predicateObjects node).filter _

/-- **The nodes that are read** are the readable ones. -/
theorem exists_read_iff (hone : SaidOnce g node) : (∃ q, read g shape node = .ok q) ↔ Readable g node := by
  obtain ⟨hnames, hpaths⟩ := hone
  simp only [← Graph.mem_objects] at hnames hpaths
  simp only [read, ofPairs_eq_ok_iff, valuesOf_predicateObjects]
  constructor
  · rintro ⟨q, hname, hpath, hkind, hcount, -⟩
    obtain ⟨l, hl, -⟩ := mem_of_firstText? hname
    have hkind := (exists_readKind_iff shape q.name).1 ⟨_, hkind⟩
    have hcount := (exists_readCount_iff shape q.name).1 ⟨_, hcount⟩
    rw [← length_kindTriples] at hkind
    simp only [Graph.mem_objects] at hl hkind hcount
    exact ⟨⟨l, hl⟩, ⟨_, Graph.mem_objects.1 (mem_of_readPath hpath)⟩, hkind.1, hkind.2, hcount.1, hcount.2⟩
  · rintro ⟨⟨l, hl⟩, ⟨path, hpath⟩, hkinds, hdatatype, hcounts, hcount⟩
    rw [length_kindTriples] at hkinds
    simp only [← Graph.mem_objects] at hl hpath hdatatype hcount
    obtain ⟨kind, hkind⟩ := (exists_readKind_iff shape l.lexical).2 ⟨hkinds, hdatatype⟩
    obtain ⟨max, hmax⟩ := (exists_readCount_iff shape l.lexical).2 ⟨hcounts, hcount⟩
    exact ⟨⟨l.lexical, path, kind, max, _⟩, firstText?_of_mem hl hnames,
      readPath_of_mem hpath fun x hx y hy => hpaths x y hx hy, hkind, hmax, rfl⟩

/-- **Two kinds are refused**, once there are a name and a path that is an IRI. -/
theorem read_eq_conflict {l : Literal} {path : String} (hone : SaidOnce g node)
    (hname : ⟨node, .iri Sh.name, .literal l⟩ ∈ g.toList) (hpath : ⟨node, .iri Sh.path, .iri path⟩ ∈ g.toList)
    (h : 1 < (kindTriples g node).length) : read g shape node = .error (.conflictingKind shape l.lexical) := by
  obtain ⟨hnames, hpaths⟩ := hone
  rw [length_kindTriples] at h
  simp only [← Graph.mem_objects] at hname hpath hnames hpaths
  unfold read ofPairs
  simp only [valuesOf_predicateObjects, firstText?_of_mem hname hnames, readKind_eq_conflict h,
    readPath_of_mem hpath fun x hx y hy => hpaths x y hx hy]
  rfl

/-! ## One node in two graphs -/

/-- **A property shape is read alike from its triples in any order, and none of them is lost.**  Two graphs with the
same triples of the node, in whatever order they came, give the same property shape up to the order of its constraints,
or the same fault.  Just the readable nodes are read, what is read accounts for every pair of the node, and of two kinds
there is no choosing. -/
theorem read_rearranged {g' : Graph}
    (h : ∀ predicate object, ⟨node, predicate, object⟩ ∈ g.toList ↔ ⟨node, predicate, object⟩ ∈ g'.toList)
    (hone : SaidOnce g node) (shape : String) :
    SameOutcome Rearranged (read g shape node) (read g' shape node) ∧
      ((∃ q, read g shape node = .ok q) ↔ Readable g node) ∧
      (∀ q, read g shape node = .ok q → q.Accounts g node) ∧
      ∀ l path, ⟨node, .iri Sh.name, .literal l⟩ ∈ g.toList → ⟨node, .iri Sh.path, .iri path⟩ ∈ g.toList →
        1 < (kindTriples g node).length → read g shape node = .error (.conflictingKind shape l.lexical) := by
  refine ⟨?_, exists_read_iff hone, fun q => accounts_of_read, fun l path => read_eq_conflict hone⟩
  obtain ⟨hname, hpath⟩ := hone
  simp only [← Graph.mem_predicateObjects] at hname hpath
  exact ofPairs_perm (Graph.predicateObjects_perm h) hname hpath

end PropertyShape

namespace Example

/-- What is said of the length of a parcel: its name, path, datatype and greatest number, with a remark on either side
of them. -/
def lengthTriples : List Triple := [
  ⟨.blank "length", .iri "http://www.w3.org/ns/shacl#minCount", .typed "1" Xsd.integer⟩,
  ⟨.blank "length", .iri Sh.name, .string "length"⟩,
  ⟨.blank "length", .iri Sh.path, .iri "http://example.org/length"⟩,
  ⟨.blank "length", .iri Sh.datatype, .iri Xsd.decimal⟩,
  ⟨.blank "length", .iri Sh.maxCount, .typed "1" Xsd.integer⟩,
  ⟨.blank "length", .iri "http://www.w3.org/ns/shacl#description", .string "in metres"⟩]

end Example

open Example in
/-- The length is read backwards as it is forwards, and only the two remarks change places.  It is refused once it is
said to have a shape as well. -/
theorem PropertyShape.read_rearranged_length : (∃ q q' : PropertyShape,
    read (.ofList lengthTriples) "Parcel" (.blank "length") = .ok q ∧
      read (.ofList lengthTriples.reverse) "Parcel" (.blank "length") = .ok q' ∧
      q.Rearranged q' ∧ q.constraints ≠ q'.constraints ∧ q.Accounts (.ofList lengthTriples) (.blank "length")) ∧
    read (.ofList (⟨.blank "length", .iri Sh.node, .blank "size"⟩ :: lengthTriples)) "Parcel" (.blank "length") =
      .error (.conflictingKind "Parcel" "length") := by
  constructor
  · have hsame : ∀ predicate object, ⟨.blank "length", predicate, object⟩ ∈ (Graph.ofList lengthTriples).toList ↔
        ⟨.blank "length", predicate, object⟩ ∈ (Graph.ofList lengthTriples.reverse).toList := by
      simp only [Graph.mem_toList_ofList, List.mem_reverse, implies_true]
    have hone : SaidOnce (.ofList lengthTriples) (.blank "length") := by
      constructor <;> simp +contextual [Graph.mem_toList_ofList, lengthTriples, Sh.name, Sh.path, Sh.datatype,
        Sh.maxCount, Term.string, Term.typed]
    obtain ⟨hread, -, haccounts, -⟩ := read_rearranged hsame hone "Parcel"
    have hconstraints : (read (.ofList lengthTriples) "Parcel" (.blank "length")).toOption.map (·.constraints) ≠
        (read (.ofList lengthTriples.reverse) "Parcel" (.blank "length")).toOption.map (·.constraints) := by
      decide +kernel
    generalize hq : read (.ofList lengthTriples) "Parcel" (.blank "length") = x at *
    generalize hq' : read (.ofList lengthTriples.reverse) "Parcel" (.blank "length") = y at *
    cases hread with
    | @ok q q' h => exact ⟨q, q', rfl, rfl, h, fun heq => hconstraints (congrArg some heq), haccounts q rfl⟩
    | error _ => exact absurd rfl hconstraints
  · have hone : SaidOnce (.ofList (⟨.blank "length", .iri Sh.node, .blank "size"⟩ :: lengthTriples))
        (.blank "length") := by
      constructor <;> simp +contextual [Graph.mem_toList_ofList, lengthTriples, Sh.name, Sh.path, Sh.datatype,
        Sh.maxCount, Sh.node, Term.string, Term.typed]
    obtain ⟨-, -, -, hconflict⟩ := read_rearranged (fun _ _ => Iff.rfl) hone "Parcel"
    refine hconflict ⟨"length", Xsd.string, none⟩ "http://example.org/length" ?_ ?_ (by decide +kernel) <;>
      simp [Graph.mem_toList_ofList, lengthTriples, Sh.node, Term.string, Term.typed]

end ShapeBinding
