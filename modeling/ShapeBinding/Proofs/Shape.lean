import ShapeBinding.Catalog
import ShapeBinding.Proofs.Accepted
import ShapeBinding.Proofs.Graph.Objects
import ShapeBinding.Proofs.Text.Numeral
import ShapeBinding.Shape
/-!
# What reading a shape takes from the graph

A count is read from the forms of an integer without a minus sign (`readMaxCount?_eq_some_iff`).  The shapes of a graph
are the subjects of two types, each once (`mem_discover`, `nodup_discover`).  An accepted reading of a shape read every
one of its property nodes, in graph order, and met no property name twice (`readProperties_eq_ok_iff`).  Reading depends
on nothing but the pairs of the shape itself and of its property nodes (`read_congr`).
-/
namespace ShapeBinding

namespace Graph

/-- The subject is typed as a shape. -/
def IsShape (g : Graph) (x : Term) : Prop :=
  ⟨x, .iri Rdf.type, .iri Sh.shape⟩ ∈ g.toList ∨ ⟨x, .iri Rdf.type, .iri Sh.nodeShape⟩ ∈ g.toList

end Graph

/-- A list with one element at most cannot be rearranged. -/
theorem eq_of_perm_of_length {α : Type} {as bs : List α} (h : as.Perm bs) (hlength : as.length ≤ 1) : as = bs := by
  match as, hlength with
  | [], _ => exact (List.nil_perm.1 h).symm
  | [a], _ => exact List.singleton_perm.1 h

/-! ## Property shapes -/

/-- **A count is a form of an integer without a minus sign**, in 32 bits. -/
theorem readMaxCount?_eq_some_iff {l : Literal} {max : UInt32} : readMaxCount? (.literal l) = some max ↔
    IntegerForm l.lexical.toList max.toNat ∧ l.lexical.toList.head? ≠ some '-' := by
  have hdigits : ∀ ds : List Char, (if isNumeral ds then uint32? (numeral ds) else none) = some max ↔
      isNumeral ds = true ∧ (max.toNat : Int) = numeral ds := by
    intro ds
    rw [Int.ofNat_inj]
    split <;> simp_all
  simp only [readMaxCount?, Term.literal?, Option.bind_eq_bind, Option.bind_some, hdigits]
  generalize l.lexical.toList = s
  split
  · rename_i ds
    have hsplit : splitSign ('+' :: ds) = (false, ds) := rfl
    simp [integerForm_iff_of_splitSign hsplit]
  · rename_i hplus
    by_cases hminus : s.head? = some '-'
    · obtain ⟨ds, rfl⟩ := List.head?_eq_some_iff.1 hminus
      have hnumeral : isNumeral ('-' :: ds) = false := by simp [isNumeral]
      simp [hnumeral]
    · have hsplit : splitSign s = (false, s) := by
        unfold splitSign
        split
        · exact absurd rfl hminus
        · exact absurd rfl (hplus _)
        · rfl
      simp [integerForm_iff_of_splitSign hsplit, hminus]

namespace PropertyShape

theorem valuesOf_perm {pairs pairs' : List (Term × Term)} (h : pairs.Perm pairs') (predicate : String) :
    (valuesOf predicate pairs).Perm (valuesOf predicate pairs') :=
  (h.filter _).map _

theorem mem_valuesOf {predicate : String} {pairs : List (Term × Term)} {y : Term} :
    y ∈ valuesOf predicate pairs ↔ (.iri predicate, y) ∈ pairs := by
  simp [valuesOf]

/-- **What an accepted property shape checked**: a name, an IRI as the path, at most one kind and at most one count. -/
theorem ofPairs_eq_ok_iff {shape : String} {node : Term} {pairs : List (Term × Term)} {q : PropertyShape} :
    ofPairs shape node pairs = .ok q ↔ firstText? (valuesOf Sh.name pairs) = some q.name ∧
      readPath shape q.name node (valuesOf Sh.path pairs) = .ok q.path ∧
      readKind shape q.name (valuesOf Sh.datatype pairs) (valuesOf Sh.node pairs) = .ok q.kind ∧
      readCount shape q.name (valuesOf Sh.maxCount pairs) = .ok q.maxCount ∧
      q.constraints = pairs.filter fun p => p.1 ∉ understood := by
  unfold ofPairs
  cases firstText? (valuesOf Sh.name pairs) with
  | none => exact ⟨nofun, nofun⟩
  | some name =>
    simp only [bind_eq_ok_iff]
    constructor
    · rintro ⟨_, ⟨⟩, path, hpath, kind, hkind, max, hmax, ⟨⟩⟩
      exact ⟨rfl, hpath, hkind, hmax, rfl⟩
    · rintro ⟨⟨⟩, hpath, hkind, hmax, hconstraints⟩
      refine ⟨q.name, rfl, q.path, hpath, q.kind, hkind, q.maxCount, hmax, ?_⟩
      rw [← hconstraints]

/-- **What an accepted kind was read from**: nothing, one datatype that is an IRI, or one nested shape. -/
theorem readKind_eq_ok_iff {shape name : String} {datatypes nodes : List Term} {kind : Option (ValueKind Term)} :
    readKind shape name datatypes nodes = .ok kind ↔
      (datatypes = [] ∧ nodes = [] ∧ kind = none) ∨
      (∃ datatype, datatypes = [.iri datatype] ∧ nodes = [] ∧ kind = some (.datatype datatype)) ∨
      ∃ reference, datatypes = [] ∧ nodes = [reference] ∧ kind = some (.nested reference) := by
  constructor
  · intro h
    unfold readKind at h
    split at h <;> cases h <;> simp
  · rintro (⟨rfl, rfl, rfl⟩ | ⟨datatype, rfl, rfl, rfl⟩ | ⟨reference, rfl, rfl, rfl⟩) <;> rfl

theorem mem_nodes_of_readKind {shape name : String} {datatypes nodes : List Term} {kind : Option (ValueKind Term)}
    (h : readKind shape name datatypes nodes = .ok kind) (y : Term) : y ∈ nodes ↔ kind = some (.nested y) := by
  rcases readKind_eq_ok_iff.1 h with ⟨rfl, rfl, rfl⟩ | ⟨datatype, rfl, rfl, rfl⟩ | ⟨reference, rfl, rfl, rfl⟩ <;>
    simp [eq_comm]

theorem mem_toList_of_kind_nested {g : Graph} {shape : String} {node y : Term} {q : PropertyShape}
    (h : read g shape node = .ok q) (hk : q.kind = some (.nested y)) : ⟨node, .iri Sh.node, y⟩ ∈ g.toList := by
  obtain ⟨-, -, hkind, -⟩ := ofPairs_eq_ok_iff.1 h
  rw [← Graph.mem_predicateObjects, ← mem_valuesOf, mem_nodes_of_readKind hkind, hk]

end PropertyShape

/-! ## Shapes -/

namespace Shape

theorem mem_discover {g : Graph} {x : Term} : x ∈ discover g ↔ g.IsShape x := by
  rw [discover, List.mem_eraseDups, List.mem_append, Graph.mem_subjects, Graph.mem_subjects, Graph.IsShape]

theorem nodup_discover (g : Graph) : (discover g).Nodup := nodup_eraseDups _

theorem addProperty_eq_ok_iff {g : Graph} {shape : String} {ps ps' : List PropertyShape} {node : Term} :
    addProperty g shape ps node = .ok ps' ↔
      ∃ p, PropertyShape.read g shape node = .ok p ∧ p.name ∉ ps.map (·.name) ∧ ps' = ps ++ [p] := by
  rw [addProperty, bind_eq_ok_iff]
  refine exists_congr fun p => and_congr_right fun _ => ?_
  have hany : ps.any (·.name = p.name) = true ↔ p.name ∈ ps.map (·.name) := by simp
  split
  · rename_i h
    simp [hany.1 h]
  · rename_i h
    simp [mt hany.2 h, eq_comm]

theorem foldlM_addProperty_eq_ok_iff {g : Graph} {shape : String} : ∀ {nodes : List Term} {acc ps : List PropertyShape},
    (acc.map (·.name)).Nodup → (nodes.foldlM (addProperty g shape) acc = .ok ps ↔
      ∃ qs, ps = acc ++ qs ∧ List.Forall₂ (fun node p => PropertyShape.read g shape node = .ok p) nodes qs ∧
        (ps.map (·.name)).Nodup)
  | [], acc, ps, hacc => by
    constructor
    · intro h
      cases h
      exact ⟨[], (List.append_nil _).symm, .nil, hacc⟩
    · rintro ⟨_, rfl, h, -⟩
      cases h
      rw [List.append_nil]
      rfl
  | node :: nodes, acc, ps, hacc => by
    rw [List.foldlM_cons, bind_eq_ok_iff]
    constructor
    · rintro ⟨acc', h, hrest⟩
      obtain ⟨p, hp, hnew, rfl⟩ := addProperty_eq_ok_iff.1 h
      obtain ⟨qs, rfl, hqs, hnd⟩ := (foldlM_addProperty_eq_ok_iff (nodup_map_append hacc hnew)).1 hrest
      exact ⟨p :: qs, List.append_assoc .., .cons hp hqs, hnd⟩
    · rintro ⟨_, rfl, h, hnd⟩
      cases h with
      | @cons _ p _ qs hp hqs =>
        rw [← List.singleton_append, ← List.append_assoc] at hnd ⊢
        have hnew : p.name ∉ acc.map (·.name) := fun hmem => by
          rw [List.map_append, List.map_append, List.nodup_append, List.nodup_append] at hnd
          exact hnd.1.2.2 _ hmem _ (List.mem_singleton_self _) rfl
        exact ⟨acc ++ [p], addProperty_eq_ok_iff.2 ⟨p, hp, hnew, rfl⟩,
          (foldlM_addProperty_eq_ok_iff (nodup_map_append hacc hnew)).2 ⟨qs, rfl, hqs, hnd⟩⟩

/-- **An accepted reading of property nodes read every one of them, in order**, and found no name twice. -/
theorem readProperties_eq_ok_iff {g : Graph} {shape : String} {nodes : List Term} {ps : List PropertyShape} :
    readProperties g shape nodes = .ok ps ↔
      List.Forall₂ (fun node p => PropertyShape.read g shape node = .ok p) nodes ps ∧ (ps.map (·.name)).Nodup := by
  have hnil : (([] : List PropertyShape).map (·.name)).Nodup := .nil
  rw [readProperties, foldlM_addProperty_eq_ok_iff hnil]
  simp

theorem read_eq_ok_iff {g : Graph} {x : Term} {s : Shape} : read g x = .ok s ↔
    s.subject = x ∧ readName g x = .ok s.name ∧ readTarget g x = .ok s.target ∧
      readProperties g s.name (g.objects x (.iri Sh.property)) = .ok s.properties := by
  unfold read
  simp only [bind_eq_ok_iff]
  constructor
  · rintro ⟨name, hname, target, htarget, properties, hproperties, ⟨⟩⟩
    exact ⟨rfl, hname, htarget, hproperties⟩
  · rintro ⟨rfl, hname, htarget, hproperties⟩
    exact ⟨_, hname, _, htarget, _, hproperties, rfl⟩

theorem forall₂_read {g : Graph} {x : Term} {s : Shape} (h : read g x = .ok s) :
    List.Forall₂ (fun node q => PropertyShape.read g s.name node = .ok q) (g.objects x (.iri Sh.property))
      s.properties :=
  (readProperties_eq_ok_iff.1 (read_eq_ok_iff.1 h).2.2.2).1

theorem readAll_eq_ok_iff {g : Graph} {shapes : List Shape} : readAll g = .ok shapes ↔
    shapes.map (·.subject) = discover g ∧ ∀ s ∈ shapes, read g s.subject = .ok s := by
  rw [readAll, mapM_eq_ok_iff]
  constructor
  · intro h
    generalize discover g = xs at h
    induction h with
    | nil => exact ⟨rfl, nofun⟩
    | @cons x s xs shapes hs _ ih =>
      have hx : s.subject = x := (read_eq_ok_iff.1 hs).1
      refine ⟨by rw [List.map_cons, ih.1, hx], List.forall_mem_cons.2 ⟨hx ▸ hs, ih.2⟩⟩
  · rintro ⟨hd, h⟩
    rw [← hd, List.forall₂_map_left_iff, List.forall₂_same]
    exact h

/-! ## What reading depends on -/

theorem readProperties_congr {g g' : Graph} {shape : String} {nodes : List Term}
    (h : ∀ node ∈ nodes, g.predicateObjects node = g'.predicateObjects node) :
    readProperties g shape nodes = readProperties g' shape nodes := by
  have hstep : ∀ ps, ∀ node ∈ nodes, addProperty g shape ps node = addProperty g' shape ps node := by
    intro ps node hnode
    rw [addProperty, addProperty, PropertyShape.read, PropertyShape.read, h node hnode]
  rw [readProperties, readProperties, foldlM_congr_of_mem hstep]

/-- **Reading a shape depends only on what is said of it and of its property nodes.** -/
theorem read_congr {g g' : Graph} {x : Term} (hx : g.predicateObjects x = g'.predicateObjects x)
    (hnodes : ∀ node ∈ g.objects x (.iri Sh.property), g.predicateObjects node = g'.predicateObjects node) :
    read g x = read g' x := by
  have hobjects := Graph.objects_congr hx
  have hname : readName g x = readName g' x := by
    unfold readName
    rw [hobjects]
  have htarget : readTarget g x = readTarget g' x := by
    unfold readTarget
    rw [hobjects]
  unfold read
  simp only [hname, htarget, ← hobjects, readProperties_congr hnodes]

end Shape
end ShapeBinding
