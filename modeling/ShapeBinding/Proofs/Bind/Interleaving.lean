import ShapeBinding.Datatype.Builtin
import ShapeBinding.Proofs.Bind.Exact
import ShapeBinding.Proofs.Compile.Locality
import ShapeBinding.Proofs.Term.Order
/-!
# Binding in any interleaving

Whatever binding looks up is what one subject has under one predicate.  So graphs that say the same of every subject
bind every subject alike (`Binder.bindSubject_congr`), however the triples of different subjects are interleaved.  The
subjects of a type may then be met in another order, but they are the same ones, and each is met once
(`Binder.roots_perm_roots`): there are as many of them, and sorting arranges them in one way.  When all of them are
bound, the order of terms decides which entity comes first and which error is told (`Binder.bindAll_eq_ok_iff`,
`Binder.bindAll_eq_error_iff`).
-/
namespace ShapeBinding

namespace Graph

/-- The graphs have the same objects of every subject under every predicate, in the same order.  How the predicates of
one subject are interleaved does not matter here either. -/
def SameObjects (g g' : Graph) : Prop := ∀ x p, g.objects x p = g'.objects x p

theorem SamePairs.sameObjects {g g' : Graph} (h : g.SamePairs g') : g.SameObjects g' := fun x => objects_congr (h x)

end Graph

namespace Binder

variable {b : Binder} {g g' : Graph} {s : Schema}

/-! ## One subject -/

theorem bindObject_congr {property : String} {o : Term} {kind : ValueKind Schema}
    (hnested : ∀ t, kind = .nested t → b.bindSubject g o t = b.bindSubject g' o t) :
    b.bindObject g property o kind = b.bindObject g' property o kind := by
  cases kind with
  | datatype iri => rw [bindObject, bindObject]
  | nested t => rw [bindObject, bindObject, hnested t rfl]

theorem bindProperty_congr {schema : String} {x : Term} {p : Property Schema}
    (hobjects : g.objects x (.iri p.path) = g'.objects x (.iri p.path))
    (hnested : ∀ t, p.kind = .nested t → ∀ o, b.bindSubject g o t = b.bindSubject g' o t) :
    b.bindProperty g schema x p = b.bindProperty g' schema x p := by
  have hvalues : (fun o => b.bindObject g p.name o p.kind) = fun o => b.bindObject g' p.name o p.kind := by
    funext o
    exact bindObject_congr fun t ht => hnested t ht o
  rw [bindProperty_eq, bindProperty_eq, hobjects, hvalues]

/-- **A subject is bound from the objects that are looked up**, and from nothing else.  By induction on the schema: the
lookups of the nested entities are among them. -/
theorem bindSubject_congr (h : g.SameObjects g') (s : Schema) (x : Term) :
    b.bindSubject g x s = b.bindSubject g' x s := by
  induction s using Schema.induction generalizing x with
  | h s ih =>
    have hproperties : s.properties.mapM (b.bindProperty g s.name x) =
        s.properties.mapM (b.bindProperty g' s.name x) := by
      apply mapM_congr_of_mem
      intro p hp
      exact bindProperty_congr (h x _) fun t ht => ih t (Schema.mem_dependencies.2 ⟨p, hp, ht⟩)
    rw [bindSubject_eq, bindSubject_eq, bindProperties_eq_mapM, bindProperties_eq_mapM, hproperties]

/-! ## The subjects of a type -/

theorem nodup_roots (g : Graph) (s : Schema) : (roots g s).Nodup := g.nodup_subjects _ _

/-- The same subjects are of the type, each met once, in whichever order. -/
theorem roots_perm_roots (h : g.SameObjects g') : (roots g s).Perm (roots g' s) := by
  apply perm_roots (nodup_roots g s)
  intro y
  rw [mem_roots, ← Graph.mem_objects, ← Graph.mem_objects, h]

/-- **Which subject is the only one does not depend on the order**, nor does how many there are. -/
theorem bind_congr (h : g.SameObjects g') : b.bind g s = b.bind g' s := by
  have hperm : (roots g s).Perm (roots g' s) := roots_perm_roots h
  unfold bind
  split
  · rename_i hroots
    rw [hroots, List.nil_perm] at hperm
    rw [hperm]
  · rename_i root hroots
    rw [hroots, List.singleton_perm] at hperm
    rw [← hperm]
    exact bindSubject_congr h s root
  · rename_i hnil hsingleton
    split
    · rename_i hroots
      rw [hroots, List.perm_nil] at hperm
      exact absurd hperm hnil
    · rename_i root hroots
      rw [hroots, List.perm_singleton] at hperm
      exact absurd hperm (hsingleton root)
    · rw [hperm.length_eq]

theorem bindType_congr (h : g.SameObjects g') (target : String) :
    b.bindType g target = b.bindType g' target := by
  unfold bindType
  split
  · exact bind_congr h
  · rfl

theorem bindAll_congr (h : g.SameObjects g') : b.bindAll g s = b.bindAll g' s := by
  unfold bindAll
  rw [Term.sort_congr (roots_perm_roots h)]
  exact mapM_congr_of_mem fun x _ => bindSubject_congr h s x

/-! ## All the subjects of a type -/

theorem bindAll_eq_ok_iff_sort {es : List Entity} : b.bindAll g s = .ok es ↔
    Term.sort (roots g s) = es.map (·.subject) ∧ ∀ e ∈ es, b.bindSubject g e.subject s = .ok e := by
  unfold bindAll
  rw [mapM_eq_ok_iff]
  constructor
  · intro h
    have hsubject : ∀ x e, b.bindSubject g x s = .ok e → e.subject = x := fun x e he =>
      (bindSubject_eq_ok_iff.1 he).2.1
    refine ⟨?_, fun e he => ?_⟩
    · rw [map_eq_map_of_forall₂ (f := id) h hsubject, List.map_id]
    · obtain ⟨x, -, hx⟩ := exists_left_of_forall₂ h he
      rw [hsubject x e hx]
      exact hx
  · rintro ⟨hsort, hbound⟩
    rw [hsort, List.forall₂_map_left_iff, List.forall₂_same]
    exact hbound

/-- **The entities of a type come in the order of their subjects**, one for each subject of the type. -/
theorem bindAll_eq_ok_iff {es : List Entity} : b.bindAll g s = .ok es ↔
    (es.map (·.subject)).Pairwise Term.Before ∧
    (∀ x, x ∈ es.map (·.subject) ↔ ⟨x, .iri Rdf.type, .iri s.targetType⟩ ∈ g.toList) ∧
    ∀ e ∈ es, b.bindSubject g e.subject s = .ok e := by
  rw [bindAll_eq_ok_iff_sort, ← and_assoc]
  apply and_congr_left'
  simp only [← mem_roots]
  constructor
  · intro hsort
    rw [← hsort]
    exact ⟨Term.pairwise_before_sort (nodup_roots g s), fun x => Term.mem_sort⟩
  · rintro ⟨hordered, hmem⟩
    exact Term.sort_eq_of_pairwise (nodup_roots g s) hordered hmem

/-- **The error for a type is that of its least subject that fails.** -/
theorem bindAll_eq_error_iff {err : BindError} : b.bindAll g s = .error err ↔
    ∃ x, ⟨x, .iri Rdf.type, .iri s.targetType⟩ ∈ g.toList ∧ b.bindSubject g x s = .error err ∧
      ∀ y, ⟨y, .iri Rdf.type, .iri s.targetType⟩ ∈ g.toList → y.Before x → ∃ e, b.bindSubject g y s = .ok e := by
  unfold bindAll
  have hordered := Term.pairwise_before_sort (nodup_roots g s)
  rw [mapM_eq_error_iff, firstFails_iff_of_pairwise hordered fun _ _ => Term.Before.asymm]
  simp only [Term.mem_sort, mem_roots]

/-- **Binding does not see how subjects are interleaved.**  Graphs that say the same of every subject, in the same
order, bind alike in all four ways, with the same entities or the same error.  If all the subjects of a type are bound,
the entities come strictly in the order of terms, one for each subject of the type, and each is what its subject is
bound to; if not, the error is that of the least subject that fails. -/
theorem bind_independent_of_interleaving (b : Binder) :
    (∀ g g', g.SamePairs g' →
      (∀ s x, b.bindSubject g x s = b.bindSubject g' x s) ∧
      (∀ s, b.bind g s = b.bind g' s) ∧
      (∀ target, b.bindType g target = b.bindType g' target) ∧
      ∀ s, b.bindAll g s = b.bindAll g' s) ∧
    (∀ g s es, b.bindAll g s = .ok es ↔
      (es.map (·.subject)).Pairwise Term.Before ∧
      (∀ x, x ∈ es.map (·.subject) ↔ ⟨x, .iri Rdf.type, .iri s.targetType⟩ ∈ g.toList) ∧
      ∀ e ∈ es, b.bindSubject g e.subject s = .ok e) ∧
    ∀ g s err, b.bindAll g s = .error err ↔
      ∃ x, ⟨x, .iri Rdf.type, .iri s.targetType⟩ ∈ g.toList ∧ b.bindSubject g x s = .error err ∧
        ∀ y, ⟨y, .iri Rdf.type, .iri s.targetType⟩ ∈ g.toList → y.Before x → ∃ e, b.bindSubject g y s = .ok e := by
  refine ⟨fun g g' hsame => ?_, fun g s es => bindAll_eq_ok_iff, fun g s err => bindAll_eq_error_iff⟩
  have h : g.SameObjects g' := hsame.sameObjects
  exact ⟨bindSubject_congr h, fun s => bind_congr h, bindType_congr h, fun s => bindAll_congr h⟩

end Binder

/-! ## Tracks in two orders -/

namespace Example

def trackSchema : Schema :=
  ⟨"Track", "http://example.org/Track", none, .iri "http://example.org/TrackShape",
    [⟨"title", "http://example.org/title", .datatype Xsd.string, some 2, [], none, none⟩]⟩

def tracks : Graph := .ofList [
  ⟨.blank "b", .iri Rdf.type, .iri "http://example.org/Track"⟩,
  ⟨.blank "b", .iri "http://example.org/title", .string "B"⟩,
  ⟨.blank "a", .iri Rdf.type, .iri "http://example.org/Track"⟩,
  ⟨.blank "a", .iri "http://example.org/title", .string "A"⟩,
  ⟨.blank "a", .iri "http://example.org/title", .string "Ah"⟩]

/-- The same tracks, where they take turns. -/
def turnedTracks : Graph := .ofList [
  ⟨.blank "a", .iri Rdf.type, .iri "http://example.org/Track"⟩,
  ⟨.blank "b", .iri Rdf.type, .iri "http://example.org/Track"⟩,
  ⟨.blank "a", .iri "http://example.org/title", .string "A"⟩,
  ⟨.blank "b", .iri "http://example.org/title", .string "B"⟩,
  ⟨.blank "a", .iri "http://example.org/title", .string "Ah"⟩]

def boundTracks : List Entity := [
  ⟨trackSchema, .blank "a", [⟨some .string, [.literal (.string "A"), .literal (.string "Ah")]⟩]⟩,
  ⟨trackSchema, .blank "b", [⟨some .string, [.literal (.string "B")]⟩]⟩]

theorem bindAll_tracks : (Binder.mk default .builtin true).bindAll tracks trackSchema = .ok boundTracks := by
  have hroots : Binder.roots tracks trackSchema = [.blank "b", .blank "a"] := by decide +kernel
  have hsort : Term.sort (Binder.roots tracks trackSchema) = boundTracks.map (·.subject) := by
    refine Term.sort_eq_of_pairwise (Binder.nodup_roots ..) ?_ fun x => ?_
    · exact List.pairwise_pair.2 (.blanks (utf8Before_iff.2 (by decide)))
    · rw [hroots]
      exact List.Perm.mem_iff (.swap ..)
  refine Binder.bindAll_eq_ok_iff_sort.2 ⟨hsort, ?_⟩
  rw [boundTracks, List.forall_mem_cons, List.forall_mem_singleton]
  exact ⟨rfl, rfl⟩

end Example

open Example in
/-- The tracks are bound in the order of their subjects from either graph, and in neither is there only one of them. -/
theorem Binder.bind_independent_of_interleaving_tracks : tracks.SamePairs turnedTracks ∧
    (Binder.mk default .builtin true).bindAll turnedTracks trackSchema = .ok boundTracks ∧
    (Binder.mk default .builtin true).bind turnedTracks trackSchema =
      (Binder.mk default .builtin true).bind tracks trackSchema ∧
    (boundTracks.map (·.subject)).Pairwise Term.Before := by
  have hsame : tracks.SamePairs turnedTracks := by decide +kernel
  obtain ⟨halike, hbound, -⟩ := bind_independent_of_interleaving (Binder.mk default .builtin true)
  obtain ⟨-, hbind, -, hbindAll⟩ := halike _ _ hsame
  exact ⟨hsame, (hbindAll trackSchema).symm.trans bindAll_tracks, (hbind trackSchema).symm,
    ((hbound tracks trackSchema boundTracks).1 bindAll_tracks).1⟩

end ShapeBinding
