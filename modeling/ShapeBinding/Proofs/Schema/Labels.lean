import ShapeBinding.Proofs.Compile.Content
import ShapeBinding.Proofs.Schema.Frame
/-!
# Labels that a fingerprint covers

One graph may be compiled under two tables of namespaces.  The two schemas of a name then differ in their qualified names
only (`Schema.Twins`), and so in the labels of their targets, their paths and their datatypes.  A frame holds the label of
the target and those of the paths, and equal frames have equal ones (`Schema.Twins.labels_eq`).  It holds a datatype but not
its label: two schemas with one frame say the same to a program that is generated from them just when both tables give
every datatype the same label (`Catalog.parameters_eq_iff_of_frame_eq`).
-/
namespace ShapeBinding

variable {o : CompileOptions} {ds : Datatypes} {ns ns' : Namespaces} {g : Graph} {c c' : Catalog}

/-! ## One shape under two tables -/

/-- **Two properties that were compiled from one property shape**, each under its own table. -/
structure Property.Twins (ns ns' : Namespaces) (p p' : Property Schema) : Prop where
  name_eq : p.name = p'.name
  path_eq : p.path = p'.path
  maxCount_eq : p.maxCount = p'.maxCount
  constraints_eq : p.constraints = p'.constraints
  kind_eq : (∃ iri, p.kind = .datatype iri ∧ p'.kind = .datatype iri ∧ p.qualifiedDatatype = ns.qualify? iri ∧
      p'.qualifiedDatatype = ns'.qualify? iri) ∨
    ∃ t t', p.kind = .nested t ∧ p'.kind = .nested t' ∧ t.name = t'.name

/-- **Two schemas that were compiled from one shape**, each under its own table. -/
structure Schema.Twins (ns ns' : Namespaces) (s s' : Schema) : Prop where
  name_eq : s.name = s'.name
  targetType_eq : s.targetType = s'.targetType
  shape_eq : s.shape = s'.shape
  properties_eq : List.Forall₂ (Property.Twins ns ns') s.properties s'.properties

theorem Schema.name_eq_of_shape_eq (h : c.Describes o ns g) (h' : c'.Describes o ns' g) {s s' : Schema}
    (hs : s ∈ c.schemas) (hs' : s' ∈ c'.schemas) (hshape : s.shape = s'.shape) :
    s.name = s'.name ∧ s.targetType = s'.targetType := by
  obtain ⟨d, hd, hname, htarget⟩ := (h.schemas_describe s hs).described
  obtain ⟨d', hd', hname', htarget'⟩ := (h'.schemas_describe s' hs').described
  rw [← hshape, hd] at hd'
  cases hd'
  exact ⟨hname.trans hname'.symm, htarget.trans htarget'.symm⟩

/-- **Schemas of one name come from one shape**: the first catalog has a schema for the shape of the second one's, and
only one schema of the name. -/
theorem Schema.shape_eq_of_name_eq (h : c.Describes o ns g) (h' : c'.Describes o ns' g) {s s' : Schema}
    (hs : s ∈ c.schemas) (hs' : s' ∈ c'.schemas) (hname : s.name = s'.name) : s.shape = s'.shape := by
  have hmem : s'.shape ∈ c.schemas.map (·.shape) :=
    (h.mem_shapes_iff _).2 ((h'.mem_shapes_iff _).1 (List.mem_map_of_mem hs'))
  obtain ⟨t, ht, hshape⟩ := List.mem_map.1 hmem
  have htname := (Schema.name_eq_of_shape_eq h h' ht hs' hshape).1
  rw [← List.inj_on_of_nodup_map c.names_nodup ht hs (htname.trans hname.symm), hshape]

theorem Property.Compiled.twins (h : c.Describes o ns g) (h' : c'.Describes o ns' g) {q : PropertyShape}
    {p p' : Property Schema} (hp : p.Compiled o ns c.schemas q) (hp' : p'.Compiled o ns' c'.schemas q) :
    p.Twins ns ns' p' where
  name_eq := hp.name_eq.trans hp'.name_eq.symm
  path_eq := hp.path_eq.trans hp'.path_eq.symm
  maxCount_eq := hp.maxCount_eq.trans hp'.maxCount_eq.symm
  constraints_eq := hp.constraints_eq.trans hp'.constraints_eq.symm
  kind_eq := by
    cases hq : q.datatype? o with
    | some iri =>
      obtain ⟨hkind, hqualified⟩ := hp.datatype_eq iri hq
      obtain ⟨hkind', hqualified'⟩ := hp'.datatype_eq iri hq
      exact .inl ⟨iri, hkind, hkind', hqualified, hqualified'⟩
    | none =>
      obtain ⟨y, hy⟩ : ∃ y, q.kind = some (.nested y) := by
        unfold PropertyShape.datatype? at hq
        split at hq
        · cases hq
        · cases hq
        · exact ⟨_, ‹_›⟩
      obtain ⟨t, ht, rfl, hkind, -⟩ := hp.nested_eq y hy
      obtain ⟨t', ht', hshape, hkind', -⟩ := hp'.nested_eq t.shape hy
      exact .inr ⟨t, t', hkind, hkind', (Schema.name_eq_of_shape_eq h h' ht ht' hshape.symm).1⟩

/-- **Schemas of one name are twins.** -/
theorem Catalog.Describes.twins (h : c.Describes o ns g) (h' : c'.Describes o ns' g) {s s' : Schema}
    (hs : s ∈ c.schemas) (hs' : s' ∈ c'.schemas) (hname : s.name = s'.name) : s.Twins ns ns' s' := by
  have hshape := Schema.shape_eq_of_name_eq h h' hs hs' hname
  refine ⟨hname, (Schema.name_eq_of_shape_eq h h' hs hs' hshape).2, hshape, ?_⟩
  have hps := (h.schemas_describe s hs).properties_eq
  have hps' := (h'.schemas_describe s' hs').properties_eq
  rw [← hshape, ← hname] at hps'
  refine (exists_forall₂_and_iff.1 ⟨_, hps.flip, hps'⟩).imp fun p p' hpp' => ?_
  obtain ⟨node, ⟨q, hq, hp⟩, q', hq', hp'⟩ := hpp'
  rw [hq] at hq'
  cases hq'
  exact hp.twins h h' hp'

/-! ## Frames of twins -/

/-- The labels of a schema's target and of its paths fit. -/
def Schema.LabelsFit (s : Schema) : Prop := Fits s.targetLabel ∧ ∀ p ∈ s.properties, Fits p.pathLabel

theorem Property.Twins.length_frameKind {p p' : Property Schema} (h : p.Twins ns ns' p') :
    (Schema.frameKind p.kind).length = (Schema.frameKind p'.kind).length := by
  obtain ⟨iri, hkind, hkind', -⟩ | ⟨t, t', hkind, hkind', -⟩ := h.kind_eq
  · rw [hkind, hkind']
  · rw [hkind, hkind', Schema.frameKind, Schema.frameKind, List.length_cons, List.length_cons, length_fingerprintOf,
      length_fingerprintOf]

/-- **Equal frames of twins have equal path labels**: all else takes the same room in both, and so each label is found in
the same place. -/
theorem forall₂_pathLabel_of_frames {ps ps' : List (Property Schema)} (htwins : List.Forall₂ (Property.Twins ns ns') ps ps')
    (hfits : ∀ p ∈ ps, Fits p.pathLabel) (hfits' : ∀ p' ∈ ps', Fits p'.pathLabel)
    (h : Schema.frameProperties ps = Schema.frameProperties ps') :
    List.Forall₂ (fun p p' => p.Twins ns ns' p' ∧ p.pathLabel = p'.pathLabel) ps ps' := by
  induction htwins with
  | nil => exact .nil
  | cons hp _ ih =>
    rw [List.forall_mem_cons] at hfits hfits'
    rw [Schema.frameProperties, Schema.frameProperties, frameProperty_eq, frameProperty_eq, hp.name_eq, hp.path_eq,
      hp.maxCount_eq, hp.constraints_eq] at h
    simp only [List.append_assoc, List.append_cancel_left_eq] at h
    obtain ⟨hlabel, h⟩ := framed_append_inj hfits.1 hfits'.1 h
    obtain ⟨-, h⟩ := List.append_inj h hp.length_frameKind
    simp only [List.append_cancel_left_eq] at h
    exact .cons ⟨hp, hlabel⟩ (ih hfits.2 hfits'.2 h)

theorem Schema.Twins.labels_eq {s s' : Schema} (h : s.Twins ns ns' s') (hfits : s.LabelsFit) (hfits' : s'.LabelsFit)
    (hframe : s.frame = s'.frame) : s.targetLabel = s'.targetLabel ∧
      List.Forall₂ (fun p p' => p.Twins ns ns' p' ∧ p.pathLabel = p'.pathLabel) s.properties s'.properties := by
  rw [Schema.frame_eq, Schema.frame_eq, h.name_eq, h.targetType_eq, h.shape_eq] at hframe
  simp only [List.append_cancel_left_eq] at hframe
  obtain ⟨htarget, hframe⟩ := framed_append_inj hfits.1 hfits'.1 hframe
  simp only [List.append_cancel_left_eq] at hframe
  exact ⟨htarget, forall₂_pathLabel_of_frames h.properties_eq hfits.2 hfits'.2 hframe⟩

/-! ## Parameters of twins -/

/-- **Twins with one path label have one parameter just if their datatype has one label.** -/
theorem Property.Twins.parameter_eq_iff {p p' : Property Schema} (h : p.Twins ns ns' p')
    (hlabel : p.pathLabel = p'.pathLabel) : p.parameter = p'.parameter ↔
      ∀ iri, p.kind = .datatype iri → labelFor (ns.qualify? iri) iri = labelFor (ns'.qualify? iri) iri := by
  rw [Property.parameter, Property.parameter, h.name_eq, hlabel, h.maxCount_eq, Parameter.mk.injEq]
  obtain ⟨iri, hkind, hkind', hqualified, hqualified'⟩ | ⟨t, t', hkind, hkind', hname⟩ := h.kind_eq
  · simp [Property.kindLabel, hkind, hkind', hqualified, hqualified']
  · simp [Property.kindLabel, hkind, hkind', hname]

theorem map_parameter_eq_iff : ∀ {ps ps' : List (Property Schema)},
    List.Forall₂ (fun p p' => p.Twins ns ns' p' ∧ p.pathLabel = p'.pathLabel) ps ps' →
    (ps.map Property.parameter = ps'.map Property.parameter ↔ ∀ p ∈ ps, ∀ iri, p.kind = .datatype iri →
      labelFor (ns.qualify? iri) iri = labelFor (ns'.qualify? iri) iri)
  | _, _, .nil => by simp
  | p :: ps, p' :: ps', .cons hp hps => by
    rw [List.map_cons, List.map_cons, List.cons.injEq, hp.1.parameter_eq_iff hp.2, map_parameter_eq_iff hps,
      List.forall_mem_cons]

/-- **What equal frames say of the labels.**  Let a graph compile under two tables, and let the two schemas of a name have
the same frame.  Then they have the same target label and, property by property, the same name, path label and count.
They have the same parameters just if both tables give every datatype of theirs the same label: the labels of datatypes
are not in the frame. -/
theorem Catalog.parameters_eq_iff_of_frame_eq (hc : compile o ds ns g = .ok c) (hc' : compile o ds ns' g = .ok c')
    {name : String} {s s' : Schema} (hs : c.byName? name = some s) (hs' : c'.byName? name = some s')
    (hfits : s.LabelsFit) (hfits' : s'.LabelsFit) (hframe : s.frame = s'.frame) :
    s.targetLabel = s'.targetLabel ∧
      s.parameters.map (fun q => (q.name, q.path, q.maxCount)) =
        s'.parameters.map (fun q => (q.name, q.path, q.maxCount)) ∧
      (s.parameters = s'.parameters ↔ ∀ p ∈ s.properties, ∀ iri, p.kind = .datatype iri →
        labelFor (ns.qualify? iri) iri = labelFor (ns'.qualify? iri) iri) := by
  obtain ⟨hmem, hname⟩ := byName?_eq_some_iff.1 hs
  obtain ⟨hmem', hname'⟩ := byName?_eq_some_iff.1 hs'
  have htwins := (describes_of_compile hc).twins (describes_of_compile hc') hmem hmem' (hname.trans hname'.symm)
  obtain ⟨htarget, hps⟩ := htwins.labels_eq hfits hfits' hframe
  refine ⟨htarget, ?_, map_parameter_eq_iff hps⟩
  rw [Schema.parameters, Schema.parameters, List.map_map, List.map_map]
  refine (map_eq_map_of_forall₂ hps fun p p' hpp' => ?_).symm
  simp only [Function.comp_apply, Property.parameter, hpp'.1.name_eq, hpp'.2, hpp'.1.maxCount_eq]

/-! ## A memo under three tables -/

namespace Example

/-- A memo has a text, whose datatype is left to the default. -/
def memoShapes : Graph := .ofList [
  ⟨.iri "http://example.org/MemoShape", .iri Rdf.type, .iri Sh.nodeShape⟩,
  ⟨.iri "http://example.org/MemoShape", .iri Sh.name, .string "Memo"⟩,
  ⟨.iri "http://example.org/MemoShape", .iri Sh.targetClass, .iri "http://example.org/Memo"⟩,
  ⟨.iri "http://example.org/MemoShape", .iri Sh.property, .blank "text"⟩,
  ⟨.blank "text", .iri Sh.name, .string "text"⟩,
  ⟨.blank "text", .iri Sh.path, .iri "http://example.org/text"⟩]

def xsdTable : Namespaces := ⟨[⟨"xsd", Xsd.base⟩], List.pairwise_singleton _ _, List.nodup_singleton _⟩

/-- The memo's schema, its datatype under a qualified name or not. -/
def memoSchema (qualified : Option QName) : Schema :=
  ⟨"Memo", "http://example.org/Memo", none, .iri "http://example.org/MemoShape",
    [⟨"text", "http://example.org/text", .datatype Xsd.string, none, [], none, qualified⟩]⟩

theorem compile_memoShapes (ns : Namespaces) (qualified : Option QName)
    (h : (Catalog.compile {} ∅ ns memoShapes).toOption.map (·.byName? "Memo") = some (some (memoSchema qualified))) :
    ∃ c, Catalog.compile {} ∅ ns memoShapes = .ok c ∧ c.byName? "Memo" = some (memoSchema qualified) := by
  cases hc : Catalog.compile {} ∅ ns memoShapes with
  | error e =>
    rw [hc] at h
    cases h
  | ok c =>
    rw [hc] at h
    exact ⟨c, rfl, Option.some.inj h⟩

theorem exists_compile_xsdTable : ∃ c, Catalog.compile {} ∅ xsdTable memoShapes = .ok c ∧
    c.byName? "Memo" = some (memoSchema (some ⟨"xsd", "string"⟩)) :=
  compile_memoShapes xsdTable (some ⟨"xsd", "string"⟩) (by decide +kernel)

theorem frame_memoSchema (qualified qualified' : Option QName) :
    (memoSchema qualified).frame = (memoSchema qualified').frame := rfl

theorem labelsFit_memoSchema (qualified : Option QName) : (memoSchema qualified).LabelsFit := by
  refine ⟨?_, List.forall_mem_singleton.2 ?_⟩
  · change "http://example.org/Memo".utf8ByteSize < 2 ^ 64
    decide +kernel
  · change "http://example.org/text".utf8ByteSize < 2 ^ 64
    decide +kernel

end Example

open Example in
/-- **A frame does not tell whether a datatype has a qualified name**: with and without a table the memo has one frame and
one fingerprint, but its text is of `xsd:string` to one program and of the full IRI to the other. -/
theorem Catalog.parameters_ne_of_frame_eq_memo : ∃ c c' s s', compile {} ∅ ∅ memoShapes = .ok c ∧
    compile {} ∅ xsdTable memoShapes = .ok c' ∧ c.byName? "Memo" = some s ∧ c'.byName? "Memo" = some s' ∧
    s.frame = s'.frame ∧ s.fingerprint = s'.fingerprint ∧ s.parameters ≠ s'.parameters ∧
    s.parameters = [⟨"text", Xsd.string, "http://example.org/text", none⟩] ∧
    s'.parameters = [⟨"text", "xsd:string", "http://example.org/text", none⟩] := by
  obtain ⟨c, hc, hs⟩ := compile_memoShapes ∅ none (by decide +kernel)
  obtain ⟨c', hc', hs'⟩ := exists_compile_xsdTable
  have hframe := frame_memoSchema none (some ⟨"xsd", "string"⟩)
  exact ⟨c, c', _, _, hc, hc', hs, hs', hframe, congrArg fingerprintOf hframe, by decide, rfl, by decide⟩

open Example in
/-- The default table gives the memo's datatype the label that a table of that one base gives it, and so the frame that
both have stands for the same parameters. -/
theorem Catalog.parameters_eq_iff_of_frame_eq_memo : ∃ c c' s s', compile {} ∅ .defaults memoShapes = .ok c ∧
    compile {} ∅ xsdTable memoShapes = .ok c' ∧ c.byName? "Memo" = some s ∧ c'.byName? "Memo" = some s' ∧
    s.LabelsFit ∧ s'.LabelsFit ∧ s.frame = s'.frame ∧ s.targetLabel = s'.targetLabel ∧ s.parameters = s'.parameters := by
  obtain ⟨c, hc, hs⟩ := compile_memoShapes .defaults (some ⟨"xsd", "string"⟩) (by decide +kernel)
  obtain ⟨c', hc', hs'⟩ := exists_compile_xsdTable
  have hfits := labelsFit_memoSchema (some ⟨"xsd", "string"⟩)
  obtain ⟨htarget, -, hparameters⟩ := parameters_eq_iff_of_frame_eq hc hc' hs hs' hfits hfits rfl
  refine ⟨c, c', _, _, hc, hc', hs, hs', hfits, hfits, rfl, htarget, hparameters.2 fun p hp iri hkind => ?_⟩
  obtain rfl := List.mem_singleton.1 hp
  cases hkind
  decide +kernel

end ShapeBinding
