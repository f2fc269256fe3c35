import Mathlib.Data.List.Perm.Basic
import ShapeBinding.Proofs.Compile.Content
import ShapeBinding.Proofs.Sketch.Pairs
import ShapeBinding.Proofs.Text.Numeral
/-!
# Sketched shapes compile to what they were to be

Drafts can be compiled together if their names stand for themselves, subjects, names and targets are distinct, extra
pairs are apart from each other and from the vocabularies, and references lead to drafts and never in a circle
(`WellDrafted`).  Whatever the labels of the property shapes, as long as they are distinct, the graph that such drafts
are sketched into compiles, and the catalog finds under each name a schema that says what the draft said
(`Catalog.exists_compile_ofDrafts`).
-/
namespace ShapeBinding

open PropertyShape (understood)
open ShapesSketch (ofDrafts)

/-! ## Property drafts -/

/-- The predicate is in neither the RDF nor the SHACL namespace. -/
def Outside (predicate : String) : Prop :=
  ¬ Rdf.base.toList <+: predicate.toList ∧ ¬ Sh.base.toList <+: predicate.toList

instance (predicate : String) : Decidable (Outside predicate) := inferInstanceAs (Decidable (_ ∧ _))

theorem Outside.ne_type {predicate : String} (h : Outside predicate) : predicate ≠ Rdf.type := by
  rintro rfl
  exact h.1 (by decide)

theorem Outside.notMem_understood {predicate : String} (h : Outside predicate) : .iri predicate ∉ understood := by
  have hbase : ∀ name ∈ [Sh.name, Sh.path, Sh.datatype, Sh.node, Sh.maxCount], Sh.base.toList <+: name.toList := by
    decide
  intro hmem
  refine h.2 (hbase predicate ?_)
  simpa [understood] using hmem

/-- **The extra pairs of a draft** are apart from each other and from the vocabularies. -/
structure PropertyDraft.WellMade (d : PropertyDraft) : Prop where
  extras_nodup : d.extras.Nodup
  extras_outside : ∀ x ∈ d.extras, Outside x.1

namespace PropertyDraft

variable {d : PropertyDraft}

/-- What the pairs of the draft's own calls are. -/
def ownPairs (d : PropertyDraft) : List (Term × Term) :=
  (PropertyCall.own d.name d.path d.kind d.maxCount).map PropertyCall.pair

def extraPairs (d : PropertyDraft) : List (Term × Term) := d.extras.map fun x => (.iri x.1, x.2)

theorem mem_extras {predicate : String} {object : Term} (h : .constraint predicate object ∈ d.calls) :
    (predicate, object) ∈ d.extras := by
  rw [← d.calls_extras]
  exact List.mem_filterMap.2 ⟨_, h, rfl⟩

/-- No call types a node. -/
theorem pair_ne_type (h : d.WellMade) {c : PropertyCall} (hc : c ∈ d.calls) : c.pair.1 ≠ .iri Rdf.type := by
  cases c with
  | constraint i o => simpa [PropertyCall.pair] using (h.extras_outside _ (mem_extras hc)).ne_type
  | _ => simp [PropertyCall.pair, Rdf.type, Sh.name, Sh.path, Sh.datatype, Sh.node, Sh.maxCount]

theorem understood_iff (h : d.WellMade) {c : PropertyCall} (hc : c ∈ d.calls) :
    c.pair.1 ∈ understood ↔ c.extra?.isNone = true := by
  cases c with
  | constraint i o =>
    simpa [PropertyCall.pair, PropertyCall.extra?] using (h.extras_outside _ (mem_extras hc)).notMem_understood
  | _ => simp [PropertyCall.pair, PropertyCall.extra?, understood]

/-- **The pairs that are understood are the draft's own**, in some order. -/
theorem filter_understood_perm (h : d.WellMade) : (d.pairs.filter fun p => p.1 ∈ understood).Perm d.ownPairs := by
  have hfilter : d.pairs.filter (fun p => p.1 ∈ understood) =
      (d.calls.filter fun c => c.extra?.isNone).map PropertyCall.pair := by
    rw [pairs, List.filter_map]
    congr 1
    exact List.filter_congr fun c hc => by simp only [Function.comp_apply, understood_iff h hc, Bool.decide_eq_true]
  rw [hfilter]
  exact d.calls_perm.map _

theorem map_pair_filter_extra : ∀ calls : List PropertyCall,
    (calls.filter fun c => !c.extra?.isNone).map PropertyCall.pair =
      (calls.filterMap PropertyCall.extra?).map fun x => (.iri x.1, x.2)
  | [] => rfl
  | c :: calls => by
    have ih := map_pair_filter_extra calls
    cases c with
    | constraint i o =>
      have hextra : (PropertyCall.constraint i o).extra? = some (i, o) := rfl
      rw [List.filter_cons_of_pos (by rfl), List.filterMap_cons_some hextra, List.map_cons, List.map_cons, ih]
      rfl
    | _ => rw [List.filter_cons_of_neg (by simp [PropertyCall.extra?]), List.filterMap_cons_none rfl, ih]

/-- **All other pairs are the extra ones**, in the order of their calls. -/
theorem filter_not_understood (h : d.WellMade) : (d.pairs.filter fun p => p.1 ∉ understood) = d.extraPairs := by
  rw [extraPairs, ← d.calls_extras, ← map_pair_filter_extra, pairs, List.filter_map]
  congr 1
  exact List.filter_congr fun c hc => by
    simp only [Function.comp_apply, understood_iff h hc, decide_not, Bool.decide_eq_true]

theorem nodup_predicates (d : PropertyDraft) : (d.ownPairs.map (·.1)).Nodup := by
  unfold ownPairs PropertyCall.own
  rcases d.kind with _ | (iri | y) <;> rcases d.maxCount with _ | max <;>
    simp [PropertyCall.ofKind, PropertyCall.pair, Sh.name, Sh.path, Sh.datatype, Sh.node, Sh.maxCount]

/-- **No pair is said twice**, so that a graph keeps them all. -/
theorem nodup_pairs (h : d.WellMade) : d.pairs.Nodup := by
  have hextra : d.extraPairs.Nodup := by
    refine h.extras_nodup.map fun x y hxy => ?_
    simpa [Prod.ext_iff] using hxy
  have hsplit := List.filter_append_perm (fun p : Term × Term => decide (p.1 ∈ understood)) d.pairs
  simp only [← decide_not, filter_not_understood h] at hsplit
  rw [← hsplit.nodup_iff, List.nodup_append]
  refine ⟨(filter_understood_perm h).nodup_iff.2 (.of_map _ d.nodup_predicates), hextra, fun p hp q hq heq => ?_⟩
  rw [← filter_not_understood h] at hq
  have hp' : p.1 ∈ understood := by simpa using (List.mem_filter.1 hp).2
  have hq' : q.1 ∉ understood := by simpa using (List.mem_filter.1 hq).2
  exact hq' (heq ▸ hp')

/-! ### Reading a property draft -/

/-- What is read of the draft: references are subjects now. -/
def shape (d : PropertyDraft) : PropertyShape where
  name := d.name
  path := d.path
  kind := d.kind.map fun
    | .datatype iri => .datatype iri
    | .nested subject => .nested (.iri subject)
  maxCount := d.maxCount
  constraints := d.extraPairs

theorem length_valuesOf_le_one (predicate : String) : ∀ {pairs : List (Term × Term)}, (pairs.map (·.1)).Nodup →
    (valuesOf predicate pairs).length ≤ 1
  | [], _ => Nat.zero_le _
  | p :: pairs, h => by
    rw [List.map_cons, List.nodup_cons] at h
    by_cases hp : p.1 = .iri predicate
    · have hrest : pairs.filter (fun q => q.1 = .iri predicate) = [] :=
        List.filter_eq_nil_iff.2 fun q hq => by
          have : q.1 ≠ p.1 := fun heq => h.1 (heq ▸ List.mem_map_of_mem hq)
          simpa [← hp] using this
      simp [valuesOf, hp, hrest]
    · simpa [valuesOf, hp] using length_valuesOf_le_one predicate h.2

/-- The values under a predicate that is understood are those of the draft's own calls, which say one at most. -/
theorem valuesOf_pairs (h : d.WellMade) {predicate : String} (hp : .iri predicate ∈ understood) :
    valuesOf predicate d.pairs = valuesOf predicate d.ownPairs := by
  have hperm : (valuesOf predicate d.pairs).Perm (valuesOf predicate d.ownPairs) := by
    have hfilter : d.pairs.filter (fun p => p.1 = .iri predicate) =
        (d.pairs.filter fun p => p.1 ∈ understood).filter fun p => p.1 = .iri predicate := by
      rw [List.filter_filter]
      refine List.filter_congr fun p _ => ?_
      by_cases hpred : p.1 = .iri predicate <;> simp [hpred, hp]
    rw [valuesOf, hfilter]
    exact PropertyShape.valuesOf_perm (filter_understood_perm h) predicate
  exact (eq_of_perm_of_length hperm.symm (length_valuesOf_le_one predicate d.nodup_predicates)).symm

/-- **A count is read as it was written.** -/
theorem readMaxCount?_digits (max : UInt32) :
    readMaxCount? (.typed (String.ofList (digits max.toNat)) Xsd.integer) = some max := by
  have hform : IntegerForm (digits max.toNat) max.toNat := by
    simpa using IntegerForm.unsigned (isNumeral_digits max.toNat)
  have hminus : '-' ∉ digits max.toNat := notMem_of_forall_isDigit (fun _ => isDigit_of_mem_digits) (by decide)
  rw [Term.typed, readMaxCount?_eq_some_iff, String.toList_ofList]
  exact ⟨hform, fun h => hminus (List.mem_of_mem_head? h)⟩

/-- **A property draft is read as what it was to be.** -/
theorem ofPairs_pairs (h : d.WellMade) (name : String) (node : Term) :
    PropertyShape.ofPairs name node d.pairs = .ok d.shape := by
  rw [PropertyShape.ofPairs_eq_ok_iff, valuesOf_pairs h (by decide), valuesOf_pairs h (by decide),
    valuesOf_pairs h (by decide), valuesOf_pairs h (by decide), valuesOf_pairs h (by decide), filter_not_understood h]
  have hmax := readMaxCount?_digits
  simp only [Term.typed] at hmax
  unfold ownPairs PropertyCall.own shape
  rcases d.kind with _ | (iri | y) <;> rcases d.maxCount with _ | max <;>
    simp [PropertyCall.ofKind, PropertyCall.pair, valuesOf, firstText?, Term.string, Term.typed, Term.literal?,
      PropertyShape.readPath, PropertyShape.readKind, PropertyShape.readCount, hmax, Sh.name, Sh.path, Sh.datatype,
      Sh.node, Sh.maxCount]

end PropertyDraft

/-! ## Shape drafts -/

/-- **A draft is well made** if its names stand for themselves, its property names are distinct and its property drafts
are well made. -/
structure ShapeDraft.WellMade (d : ShapeDraft) : Prop where
  verbatim : d.Verbatim
  names_nodup : (d.properties.map (·.name)).Nodup
  properties : ∀ p ∈ d.properties, p.WellMade

namespace ShapeDraft

variable {d : ShapeDraft} {fresh : Nat → String} {ts : List Triple} {j : Nat}

/-- What is read of the draft. -/
def shape (d : ShapeDraft) : Shape := ⟨.iri d.subject, d.name, d.target, d.properties.map PropertyDraft.shape⟩

theorem ownPairs_perm (d : ShapeDraft) : (d.calls.filterMap ShapeCall.pair?).Perm
    [(.iri Sh.name, .string d.name), (.iri Sh.targetClass, .iri d.target)] := by
  have hfilter : d.calls.filterMap ShapeCall.pair? =
      (d.calls.filter fun c => c.property?.isNone).filterMap ShapeCall.pair? := by
    rw [List.filterMap_filter]
    exact List.filterMap_congr fun c _ => by cases c <;> rfl
  rw [hfilter]
  exact d.calls_perm.filterMap _

/-- The objects that a graph has under a predicate of the subject. -/
theorem objects_ofList_of_describedIn (h : d.DescribedIn fresh ts j) (predicate : String) :
    (Graph.ofList ts).objects (.iri d.subject) (.iri predicate) = (valuesOf predicate
      (d.pairs ++ (nodesFrom fresh j d.properties.length).map fun node => (.iri Sh.property, node))).eraseDups := by
  rw [Graph.objects_ofList, objectsIn_eq_filter_pairsIn, h.subject_pairs]
  rfl

theorem valuesOf_subject_perm (d : ShapeDraft) (nodes : List Term) (predicate : String)
    (hp : predicate ∈ [Sh.name, Sh.targetClass, Sh.property]) :
    (valuesOf predicate (d.pairs ++ nodes.map fun node => (.iri Sh.property, node))).Perm
      (valuesOf predicate ([(.iri Sh.name, .string d.name), (.iri Sh.targetClass, .iri d.target)] ++
        nodes.map fun node => (.iri Sh.property, node))) := by
  have htype : Rdf.type ≠ predicate := by
    rintro rfl
    exact absurd hp (by decide)
  have hperm := PropertyShape.valuesOf_perm
    (d.ownPairs_perm.append_right (nodes.map fun node => (.iri Sh.property, node))) predicate
  simpa [valuesOf, pairs, htype] using hperm

theorem objects_name (h : d.DescribedIn fresh ts j) :
    (Graph.ofList ts).objects (.iri d.subject) (.iri Sh.name) = [.string d.name] := by
  have hperm := d.valuesOf_subject_perm (nodesFrom fresh j d.properties.length) Sh.name (by decide)
  rw [objects_ofList_of_describedIn h, List.perm_singleton.1 (hperm.trans (.of_eq ?_))]
  · rfl
  · simp [valuesOf, List.filter_map, Function.comp_def, Sh.name, Sh.targetClass, Sh.property]

theorem objects_targetClass (h : d.DescribedIn fresh ts j) :
    (Graph.ofList ts).objects (.iri d.subject) (.iri Sh.targetClass) = [.iri d.target] := by
  have hperm := d.valuesOf_subject_perm (nodesFrom fresh j d.properties.length) Sh.targetClass (by decide)
  rw [objects_ofList_of_describedIn h, List.perm_singleton.1 (hperm.trans (.of_eq ?_))]
  · rfl
  · simp [valuesOf, List.filter_map, Function.comp_def, Sh.name, Sh.targetClass, Sh.property]

theorem objects_property (h : d.DescribedIn fresh ts j) :
    (Graph.ofList ts).objects (.iri d.subject) (.iri Sh.property) = nodesFrom fresh j d.properties.length := by
  have hown : valuesOf Sh.property d.pairs = [] := by
    have hperm := d.valuesOf_subject_perm [] Sh.property (by decide)
    refine List.perm_nil.1 ?_
    simpa [valuesOf, Sh.name, Sh.targetClass, Sh.property] using hperm
  rw [objects_ofList_of_describedIn h, valuesOf, List.filter_append, List.map_append, ← valuesOf, hown,
    List.nil_append, List.filter_eq_self.2 (by simp), List.map_map]
  exact (congrArg _ (List.map_id' _)).trans (eraseDups_of_nodup h.nodes_nodup)

/-- **A shape draft is read as what it was to be.** -/
theorem read_ofList (hd : d.WellMade) (h : d.DescribedIn fresh ts j) :
    Shape.read (Graph.ofList ts) (.iri d.subject) = .ok d.shape := by
  rw [Shape.read_eq_ok_iff]
  refine ⟨rfl, ?_, ?_, ?_⟩
  · simp only [Shape.readName, objects_name h]
    rfl
  · simp only [Shape.readTarget, objects_targetClass h]
    rfl
  · rw [objects_property h, Shape.readProperties_eq_ok_iff]
    refine ⟨?_, ?_⟩
    · change List.Forall₂ _ _ (d.properties.map PropertyDraft.shape)
      rw [List.forall₂_map_right_iff]
      refine (forall₂_and_right.2 ⟨h.property_pairs, fun p hp => hp⟩).imp fun node p hp => ?_
      have hwell := hd.properties p hp.2
      have hpairs : (pairsIn ts node).Nodup := hp.1 ▸ PropertyDraft.nodup_pairs hwell
      rw [PropertyShape.read, Graph.predicateObjects_ofList hpairs, hp.1, PropertyDraft.ofPairs_pairs hwell]
    · simpa [shape, Function.comp_def, PropertyDraft.shape] using hd.names_nodup

end ShapeDraft

/-! ## All drafts together -/

open Relation (TransGen)

/-- A draft with the one subject has a property that refers to the other. -/
def ShapeDraft.Refers (ds : List ShapeDraft) (x y : String) : Prop :=
  ∃ d ∈ ds, d.subject = x ∧ ∃ p ∈ d.properties, p.kind = some (.nested y)

/-- **What drafts need in order to be compiled** to what they say. -/
structure WellDrafted (ds : List ShapeDraft) : Prop where
  wellMade : ∀ d ∈ ds, d.WellMade
  subjects_nodup : (ds.map (·.subject)).Nodup
  names_nodup : (ds.map (·.name)).Nodup
  targets_nodup : (ds.map (·.target)).Nodup
  /-- Properties refer to the subjects of drafts. -/
  references_known : ∀ x y, ShapeDraft.Refers ds x y → y ∈ ds.map (·.subject)
  acyclic : ∀ x, ¬ TransGen (ShapeDraft.Refers ds) x x

namespace WellDrafted

variable {ds : List ShapeDraft} {d : ShapeDraft} {fresh : Nat → String}

theorem graph_eq (h : WellDrafted ds) : (ofDrafts fresh ds).graph = Graph.ofList (draftTriples fresh 0 ds) :=
  ShapesSketch.graph_ofDrafts fun d hd => (h.wellMade d hd).verbatim

theorem exists_describedIn_graph (h : WellDrafted ds) (hlabels : DistinctLabels fresh (propertyCount ds))
    (hd : d ∈ ds) : ∃ j, d.DescribedIn fresh (draftTriples fresh 0 ds) j := by
  obtain ⟨j, -, -, hdescribed⟩ := exists_describedIn hlabels h.subjects_nodup hd (Nat.le_of_eq (Nat.zero_add _))
  exact ⟨j, hdescribed⟩

theorem read_graph (h : WellDrafted ds) (hlabels : DistinctLabels fresh (propertyCount ds)) (hd : d ∈ ds) :
    Shape.read (ofDrafts fresh ds).graph (.iri d.subject) = .ok d.shape := by
  obtain ⟨j, hdescribed⟩ := h.exists_describedIn_graph hlabels hd
  rw [h.graph_eq]
  exact ShapeDraft.read_ofList (h.wellMade d hd) hdescribed

theorem isShape_iff (h : WellDrafted ds) (hlabels : DistinctLabels fresh (propertyCount ds)) {x : Term} :
    (ofDrafts fresh ds).graph.IsShape x ↔ ∃ d ∈ ds, x = .iri d.subject := by
  simp only [Graph.IsShape, h.graph_eq, Graph.mem_toList_ofList]
  constructor
  · have hcalls : ∀ d ∈ ds, ∀ p ∈ d.properties, ∀ c ∈ p.calls, c.pair.1 ≠ .iri Rdf.type :=
      fun d hd p hp c hc => PropertyDraft.pair_ne_type ((h.wellMade d hd).properties p hp) hc
    rintro (htype | htype)
    · exact subject_of_type_mem hcalls htype
    · exact subject_of_type_mem hcalls htype
  · rintro ⟨d, hd, rfl⟩
    obtain ⟨j, hdescribed⟩ := h.exists_describedIn_graph hlabels hd
    have htype : ⟨.iri d.subject, .iri Rdf.type, .iri d.type⟩ ∈ draftTriples fresh 0 ds := by
      rw [← mem_pairsIn, hdescribed.subject_pairs]
      exact List.mem_append_left _ (List.mem_cons_self ..)
    unfold ShapeDraft.type at htype
    by_cases hnode : d.isNode = true
    · exact .inr (by simpa [hnode] using htype)
    · exact .inl (by simpa [hnode] using htype)

/-- A shape of the graph refers where its draft does. -/
theorem refers_of_shapeRefers (h : WellDrafted ds) (hlabels : DistinctLabels fresh (propertyCount ds)) {x y : Term}
    (hxy : (ofDrafts fresh ds).graph.ShapeRefers x y) :
    ∃ s t, x = .iri s ∧ y = .iri t ∧ ShapeDraft.Refers ds s t := by
  obtain ⟨hshape, e, he, q, hq, hk⟩ := hxy
  obtain ⟨d, hd, rfl⟩ := (h.isShape_iff hlabels).1 hshape
  rw [h.read_graph hlabels hd] at he
  cases he
  obtain ⟨p, hp, rfl⟩ := List.mem_map.1 hq
  obtain ⟨kind, hkind, hnested⟩ := Option.map_eq_some_iff.1 hk
  cases kind with
  | datatype iri => cases hnested
  | nested t =>
    cases hnested
    exact ⟨d.subject, t, rfl, rfl, d, hd, rfl, p, hp, hkind⟩

theorem transGen_refers (h : WellDrafted ds) (hlabels : DistinctLabels fresh (propertyCount ds)) {x y : Term}
    (hxy : TransGen (ofDrafts fresh ds).graph.ShapeRefers x y) :
    ∃ s t, x = .iri s ∧ y = .iri t ∧ TransGen (ShapeDraft.Refers ds) s t := by
  induction hxy with
  | single hstep =>
    obtain ⟨s, t, hs, ht, hst⟩ := h.refers_of_shapeRefers hlabels hstep
    exact ⟨s, t, hs, ht, .single hst⟩
  | tail _ hstep ih =>
    obtain ⟨s, t, hs, ht, hst⟩ := ih
    obtain ⟨t', u, ht', hu, htu⟩ := h.refers_of_shapeRefers hlabels hstep
    obtain rfl : t = t' := Term.iri.inj (ht.symm.trans ht')
    exact ⟨s, u, hs, hu, hst.tail htu⟩

/-- **The sketched graph can be compiled.** -/
theorem compilable (h : WellDrafted ds) (hlabels : DistinctLabels fresh (propertyCount ds)) (dts : Datatypes) :
    (ofDrafts fresh ds).graph.Compilable {} dts := by
  have hread : ∀ {x : Term} {e : Shape}, (ofDrafts fresh ds).graph.IsShape x →
      Shape.read (ofDrafts fresh ds).graph x = .ok e → ∃ d ∈ ds, x = .iri d.subject ∧ e = d.shape := by
    intro x e hx he
    obtain ⟨d, hd, rfl⟩ := (h.isShape_iff hlabels).1 hx
    rw [h.read_graph hlabels hd] at he
    exact ⟨d, hd, rfl, (Except.ok.inj he).symm⟩
  refine ⟨fun x hx => ?_, fun x y hxy => ?_, fun x hx => ?_, ?_, ?_, nofun⟩
  · obtain ⟨d, hd, rfl⟩ := (h.isShape_iff hlabels).1 hx
    exact ⟨d.shape, h.read_graph hlabels hd⟩
  · obtain ⟨s, t, rfl, rfl, hst⟩ := h.refers_of_shapeRefers hlabels hxy
    obtain ⟨d, hd, rfl⟩ := List.mem_map.1 (h.references_known s t hst)
    exact (h.isShape_iff hlabels).2 ⟨d, hd, rfl⟩
  · obtain ⟨s, t, hs, ht, hst⟩ := h.transGen_refers hlabels hx
    obtain rfl : s = t := Term.iri.inj (hs.symm.trans ht)
    exact h.acyclic s hst
  · intro x y e f hx hy he hf heq
    obtain ⟨d, hd, rfl, rfl⟩ := hread hx he
    obtain ⟨d', hd', rfl, rfl⟩ := hread hy hf
    rw [List.inj_on_of_nodup_map h.names_nodup hd hd' heq]
  · intro x y e f hx hy he hf heq
    obtain ⟨d, hd, rfl, rfl⟩ := hread hx he
    obtain ⟨d', hd', rfl, rfl⟩ := hread hy hf
    rw [List.inj_on_of_nodup_map h.targets_nodup hd hd' heq]

end WellDrafted

/-! ## What is compiled -/

/-- **A property is what its draft said**, and is nested in the schema that the catalog has under the name of the draft
that is referred to. -/
structure Property.Drafted (ds : List ShapeDraft) (c : Catalog) (d : PropertyDraft) (p : Property Schema) : Prop where
  name_eq : p.name = d.name
  path_eq : p.path = d.path
  maxCount_eq : p.maxCount = d.maxCount
  constraints_eq : p.constraints = d.extras.map fun x => (.iri x.1, x.2)
  datatype_eq : ∀ iri, d.kind = some (.datatype iri) → p.kind = .datatype iri
  default_eq : d.kind = none → p.kind = .datatype Xsd.string
  nested_eq : ∀ e ∈ ds, d.kind = some (.nested e.subject) → ∃ t, c.byName? e.name = some t ∧ p.kind = .nested t

/-- **A schema is what its draft said**, property by property. -/
structure Schema.Drafted (ds : List ShapeDraft) (c : Catalog) (d : ShapeDraft) (s : Schema) : Prop where
  shape_eq : s.shape = .iri d.subject
  targetType_eq : s.targetType = d.target
  properties_eq : List.Forall₂ (Property.Drafted ds c) d.properties s.properties

theorem Property.Drafted.of_compiled {ds : List ShapeDraft} {c : Catalog} {ns : Namespaces} {d : PropertyDraft}
    {p : Property Schema} (h : p.Compiled {} ns c.schemas d.shape)
    (hfound : ∀ e ∈ ds, ∀ t ∈ c.schemas, t.shape = .iri e.subject → c.byName? e.name = some t) : p.Drafted ds c d := by
  refine ⟨h.name_eq, h.path_eq, h.maxCount_eq, h.constraints_eq, fun iri hk => ?_, fun hk => ?_, fun e he hk => ?_⟩
  · exact (h.datatype_eq iri (by simp [PropertyShape.datatype?, PropertyDraft.shape, hk])).1
  · exact (h.datatype_eq Xsd.string (by simp [PropertyShape.datatype?, PropertyDraft.shape, hk])).1
  · obtain ⟨t, ht, hshape, hkind, -⟩ := h.nested_eq (.iri e.subject) (by simp [PropertyDraft.shape, hk])
    exact ⟨t, hfound e he t ht hshape, hkind⟩

section Compiled

variable {ds : List ShapeDraft} {fresh : Nat → String} {dts : Datatypes} {ns : Namespaces} {c : Catalog}
  {d : ShapeDraft} {s : Schema}

theorem WellDrafted.name_and_target_eq (h : WellDrafted ds) (hlabels : DistinctLabels fresh (propertyCount ds))
    (hc : Catalog.compile {} dts ns (ofDrafts fresh ds).graph = .ok c) (hd : d ∈ ds) (hs : s ∈ c.schemas)
    (hshape : s.shape = .iri d.subject) : s.name = d.name ∧ s.targetType = d.target := by
  obtain ⟨e, he, hname, htarget⟩ := ((Catalog.describes_of_compile hc).schemas_describe s hs).described
  rw [hshape, h.read_graph hlabels hd] at he
  cases he
  exact ⟨hname, htarget⟩

/-- **The schema of a draft's subject is what the draft said.** -/
theorem WellDrafted.drafted (h : WellDrafted ds) (hlabels : DistinctLabels fresh (propertyCount ds))
    (hc : Catalog.compile {} dts ns (ofDrafts fresh ds).graph = .ok c) (hd : d ∈ ds) (hs : s ∈ c.schemas)
    (hshape : s.shape = .iri d.subject) : s.Drafted ds c d := by
  have hdescribes := Catalog.describes_of_compile hc
  obtain ⟨hname, htarget⟩ := h.name_and_target_eq hlabels hc hd hs hshape
  have hfound : ∀ e ∈ ds, ∀ t ∈ c.schemas, t.shape = .iri e.subject → c.byName? e.name = some t :=
    fun e he t ht hshape => Catalog.byName?_eq_some_iff.2 ⟨ht, (h.name_and_target_eq hlabels hc he ht hshape).1⟩
  refine ⟨hshape, htarget, ?_⟩
  -- each property is compiled from the node that its draft was sketched as
  have hnodes : List.Forall₂ (fun p node => PropertyShape.read (ofDrafts fresh ds).graph s.name node = .ok p.shape)
      d.properties ((ofDrafts fresh ds).graph.objects s.shape (.iri Sh.property)) := by
    rw [hname, hshape]
    exact (List.forall₂_map_right_iff.1 (Shape.forall₂_read (h.read_graph hlabels hd))).flip
  refine (exists_forall₂_and_iff.1 ⟨_, hnodes, (hdescribes.schemas_describe s hs).properties_eq⟩).imp ?_
  rintro p p' ⟨node, hread, q, hq, hcompiled⟩
  rw [hread] at hq
  cases hq
  exact .of_compiled hcompiled hfound

end Compiled

/-- **Sketched shapes compile to what they were to be.**  Whatever the order of the calls, and whatever distinct labels
are drawn for the property shapes, the graph of well-made drafts compiles without options, and the catalog finds under
the name of each draft a schema that is what the draft said. -/
theorem Catalog.exists_compile_ofDrafts {ds : List ShapeDraft} (h : WellDrafted ds) {fresh : Nat → String}
    (hlabels : DistinctLabels fresh (propertyCount ds)) (dts : Datatypes) (ns : Namespaces) :
    ∃ c, compile {} dts ns (ofDrafts fresh ds).graph = .ok c ∧
      (∀ s ∈ c.schemas, ∃ d ∈ ds, s.shape = .iri d.subject) ∧
      ∀ d ∈ ds, ∃ s, c.byName? d.name = some s ∧ s.Drafted ds c d := by
  obtain ⟨c, hc⟩ : ∃ c, compile {} dts ns (ofDrafts fresh ds).graph = .ok c :=
    exists_compile_iff.2 (h.compilable hlabels dts)
  have hdescribes := describes_of_compile hc
  refine ⟨c, hc, fun s hs => ?_, fun d hd => ?_⟩
  · exact (h.isShape_iff hlabels).1 ((hdescribes.mem_shapes_iff _).1 (List.mem_map_of_mem hs))
  · obtain ⟨s, hs, hshape⟩ :=
      List.mem_map.1 ((hdescribes.mem_shapes_iff _).2 ((h.isShape_iff hlabels).2 ⟨d, hd, rfl⟩))
    have hname : s.name = d.name := (h.name_and_target_eq hlabels hc hd hs hshape).1
    exact ⟨s, byName?_eq_some_iff.2 ⟨hs, hname⟩, h.drafted hlabels hc hd hs hshape⟩

/-! ## A person's draft -/

namespace Example

/-- A city is of no declared kind. -/
def cityDraft : PropertyDraft where
  name := "city"
  path := "http://example.org/city"
  kind := none
  maxCount := some 1
  extras := [("http://example.org/hint", .string "a town"), ("http://example.org/hint", .string "or a village")]
  calls := [.maxCount 1, .constraint "http://example.org/hint" (.string "a town"), .path "http://example.org/city",
    .name "city", .constraint "http://example.org/hint" (.string "or a village")]
  calls_perm := by decide +kernel
  calls_extras := rfl

def addressDraft : ShapeDraft where
  isNode := false
  subject := "http://example.org/AddressShape"
  name := "Address"
  target := "http://example.org/Address"
  properties := [cityDraft]
  calls := [.targetClass "http://example.org/Address", .property cityDraft, .name "Address"]
  calls_perm := .swap ..
  calls_properties := rfl

def ageDraft : PropertyDraft where
  name := "age"
  path := "http://example.org/age"
  kind := some (.datatype "http://example.org/years")
  maxCount := none
  extras := []
  calls := [.datatype "http://example.org/years", .name "age", .path "http://example.org/age"]
  calls_perm := by decide +kernel
  calls_extras := rfl

def homeDraft : PropertyDraft where
  name := "home"
  path := "http://example.org/home"
  kind := some (.nested "http://example.org/AddressShape")
  maxCount := some 4294967295
  extras := []
  calls := [.name "home", .maxCount 4294967295, .path "http://example.org/home",
    .node "http://example.org/AddressShape"]
  calls_perm := by decide +kernel
  calls_extras := rfl

def personDraft : ShapeDraft where
  isNode := true
  subject := "http://example.org/PersonShape"
  name := "Person"
  target := "http://example.org/Person"
  properties := [homeDraft, ageDraft]
  calls := [.name "Person", .property homeDraft, .property ageDraft, .targetClass "http://example.org/Person"]
  calls_perm := .refl _
  calls_properties := rfl

theorem refers_personDraft {x y : String} (h : ShapeDraft.Refers [personDraft, addressDraft] x y) :
    x = "http://example.org/PersonShape" ∧ y = "http://example.org/AddressShape" := by
  obtain ⟨d, hd, rfl, p, hp, hk⟩ := h
  simp only [List.mem_cons, List.not_mem_nil, or_false] at hd
  rcases hd with rfl | rfl
  · simp only [personDraft, List.mem_cons, List.not_mem_nil, or_false] at hp
    rcases hp with rfl | rfl <;> cases hk
    exact ⟨rfl, rfl⟩
  · simp only [addressDraft, List.mem_cons, List.not_mem_nil, or_false] at hp
    rcases hp with rfl
    cases hk

theorem wellDrafted_person : WellDrafted [personDraft, addressDraft] where
  wellMade d hd := by
    simp only [List.mem_cons, List.not_mem_nil, or_false] at hd
    rcases hd with rfl | rfl
    · refine ⟨⟨by decide +kernel, by decide +kernel, by decide +kernel⟩, by decide +kernel, fun p hp => ?_⟩
      simp only [personDraft, List.mem_cons, List.not_mem_nil, or_false] at hp
      rcases hp with rfl | rfl <;> exact ⟨by decide +kernel, by decide +kernel⟩
    · refine ⟨⟨by decide +kernel, by decide +kernel, by decide +kernel⟩, by decide +kernel, fun p hp => ?_⟩
      simp only [addressDraft, List.mem_cons, List.not_mem_nil, or_false] at hp
      rcases hp with rfl
      exact ⟨by decide +kernel, by decide +kernel⟩
  subjects_nodup := by decide +kernel
  names_nodup := by decide +kernel
  targets_nodup := by decide +kernel
  references_known x y h := by
    rw [(refers_personDraft h).2]
    decide +kernel
  acyclic x h := by
    obtain ⟨y, hxy, -⟩ := Relation.TransGen.head'_iff.1 h
    obtain ⟨z, -, hzx⟩ := Relation.TransGen.tail'_iff.1 h
    have heq := (refers_personDraft hxy).1.symm.trans (refers_personDraft hzx).2
    exact absurd heq (by decide)

/-- Labels as they are drawn: the letter `b` and the 32 hexadecimal digits of a random identifier. -/
def drawnLabel (n : Nat) : String :=
  ["b8c1d0f62a7e94b3d9e05f4a61c72b38d", "b03f7a9d15c2e4e86a4d90b7f2c6185ea",
    "be49b06c83d1f4a27bf18d5c09ea3764b"].getD n ""

theorem distinctLabels_drawnLabel : DistinctLabels drawnLabel (propertyCount [personDraft, addressDraft]) := by
  have hcount : propertyCount [personDraft, addressDraft] = 3 := rfl
  have hdistinct : ∀ i : Fin 3, ∀ j : Fin 3, drawnLabel i = drawnLabel j → i = j := by decide +kernel
  rw [hcount]
  exact fun i j hi hj h => congrArg Fin.val (hdistinct ⟨i, hi⟩ ⟨j, hj⟩ h)

end Example

open Example in
/-- The two drafts compile, the one that refers to the other first. -/
theorem Catalog.exists_compile_ofDrafts_person : WellDrafted [personDraft, addressDraft] ∧
    DistinctLabels drawnLabel (propertyCount [personDraft, addressDraft]) ∧
    ∃ c, compile {} ∅ ∅ (ofDrafts drawnLabel [personDraft, addressDraft]).graph = .ok c ∧
      (∀ s ∈ c.schemas, ∃ d ∈ [personDraft, addressDraft], s.shape = .iri d.subject) ∧
      ∀ d ∈ [personDraft, addressDraft],
        ∃ s, c.byName? d.name = some s ∧ s.Drafted [personDraft, addressDraft] c d :=
  ⟨wellDrafted_person, distinctLabels_drawnLabel,
    exists_compile_ofDrafts wellDrafted_person distinctLabels_drawnLabel ∅ ∅⟩

end ShapeBinding
