import ShapeBinding.Proofs.Graph.Objects
import ShapeBinding.Schema
import ShapeBinding.Sketch
/-!
# Drafts of shapes

A draft says what a shape is to be, and by which calls it is sketched: those that it takes to say this, in any order.
Where names stand for themselves, as those with an authority do (`Graph.verbatim_of_authority`), each call adds one pair
(`PropertyCall.pair`).  So the graph sketched from drafts is the graph of a row of triples, one part of the row for each
draft (`ShapesSketch.graph_ofDrafts`).
-/
namespace ShapeBinding

/-! ## Names that stand for themselves -/

namespace Graph

variable {g : Graph}

/-- **The name is an IRI as it is**, where no labels are declared. -/
def Verbatim (name : String) : Prop := empty.expandName name = .iri name

instance (name : String) : Decidable (Verbatim name) := inferInstanceAs (Decidable (_ = _))

/-- A name with an authority behind its scheme stands for itself. -/
theorem verbatim_of_authority {name : String} {scheme rest : List Char}
    (h : name.toList = scheme ++ ':' :: '/' :: '/' :: rest) (hscheme : ':' ∉ scheme) (hblank : scheme ≠ ['_']) :
    Verbatim name := by
  have hcut : cutAt ':' name.toList = some (scheme, '/' :: '/' :: rest) := cutAt_eq_some_iff.2 ⟨h, hscheme⟩
  unfold Verbatim expandName
  split
  · rename_i label hlabel
    -- a name that begins with `_:` has the underscore alone before its first colon
    rw [hlabel] at hcut
    simp [cutAt, hblank.symm] at hcut
  · simp [hcut, List.isPrefixOf]

@[simp] theorem labels_insert (g : Graph) (t : Triple) : (g.insert t).labels = g.labels := by
  unfold insert
  split <;> rfl

@[simp] theorem labels_insertAll (g : Graph) (ts : List Triple) : (g.insertAll ts).labels = g.labels := by
  induction ts generalizing g with
  | nil => rfl
  | cons t ts ih => exact (ih _).trans (labels_insert g t)

theorem insertAll_append (g : Graph) (ts us : List Triple) : g.insertAll (ts ++ us) = (g.insertAll ts).insertAll us :=
  List.foldl_append

theorem insertAll_cons (g : Graph) (t : Triple) (ts : List Triple) :
    g.insertAll (t :: ts) = (g.insert t).insertAll ts := rfl

theorem expandName_of_labels (h : g.labels = []) (name : String) : g.expandName name = empty.expandName name := by
  have hbase : ∀ label, g.sketchBase? label = empty.sketchBase? label := fun label => by
    simp [sketchBase?, h, empty]
  unfold expandName
  simp only [hbase]

end Graph

/-! ## Calls -/

/-- A call on the sketch of a property shape. -/
inductive PropertyCall where
  | name (name : String)
  | path (path : String)
  | datatype (datatype : String)
  | node (shape : String)
  | maxCount (max : UInt32)
  | constraint (predicate : String) (object : Term)
  deriving DecidableEq

def PropertySketch.call (p : PropertySketch) : PropertyCall → PropertySketch
  | .name n => p.name n
  | .path i => p.path i
  | .datatype i => p.datatype i
  | .node x => p.node x
  | .maxCount m => p.maxCount m
  | .constraint i o => p.constraint i o

namespace PropertyCall

/-- The pair that a call adds if its names stand for themselves. -/
def pair : PropertyCall → Term × Term
  | name n => (.iri Sh.name, .string n)
  | path i => (.iri Sh.path, .iri i)
  | datatype i => (.iri Sh.datatype, .iri i)
  | node x => (.iri Sh.node, .iri x)
  | maxCount m => (.iri Sh.maxCount, .typed (String.ofList (digits m.toNat)) Xsd.integer)
  | constraint i o => (.iri i, o)

def extra? : PropertyCall → Option (String × Term)
  | constraint i o => some (i, o)
  | _ => none

/-- The names in the call stand for themselves. -/
def Verbatim : PropertyCall → Prop
  | path i => Graph.Verbatim i
  | datatype i => Graph.Verbatim i
  | node x => Graph.Verbatim x
  | constraint i _ => Graph.Verbatim i
  | name _ => True
  | maxCount _ => True

instance : DecidablePred Verbatim
  | path i => inferInstanceAs (Decidable (Graph.Verbatim i))
  | datatype i => inferInstanceAs (Decidable (Graph.Verbatim i))
  | node x => inferInstanceAs (Decidable (Graph.Verbatim x))
  | constraint i _ => inferInstanceAs (Decidable (Graph.Verbatim i))
  | name _ => inferInstanceAs (Decidable True)
  | maxCount _ => inferInstanceAs (Decidable True)

def ofKind : Option (ValueKind String) → List PropertyCall
  | none => []
  | some (.datatype iri) => [datatype iri]
  | some (.nested shape) => [node shape]

/-- The calls that it takes to say all but the extra pairs. -/
def own (n path : String) (kind : Option (ValueKind String)) (max : Option UInt32) : List PropertyCall :=
  name n :: .path path :: (ofKind kind ++ (max.map maxCount).toList)

end PropertyCall

/-! ## Drafts -/

/-- **What a property shape is to be**, and the calls that sketch it, in any order. -/
structure PropertyDraft where
  name : String
  path : String
  /-- A datatype or the subject of a shape. -/
  kind : Option (ValueKind String)
  maxCount : Option UInt32
  /-- Further predicates with objects, in the order of their calls. -/
  extras : List (String × Term)
  calls : List PropertyCall
  calls_perm : (calls.filter fun c => c.extra?.isNone).Perm (PropertyCall.own name path kind maxCount)
  calls_extras : calls.filterMap PropertyCall.extra? = extras

namespace PropertyDraft

def sketch (d : PropertyDraft) : PropertySketch := d.calls.foldl PropertySketch.call .empty

def pairs (d : PropertyDraft) : List (Term × Term) := d.calls.map PropertyCall.pair

end PropertyDraft

/-- A call on the sketch of a shape. -/
inductive ShapeCall where
  | name (name : String)
  | targetClass (type : String)
  | property (draft : PropertyDraft)

def ShapeSketch.call (s : ShapeSketch) : ShapeCall → ShapeSketch
  | .name n => s.name n
  | .targetClass t => s.targetClass t
  | .property d => s.property d.sketch

namespace ShapeCall

def pair? : ShapeCall → Option (Term × Term)
  | name n => some (.iri Sh.name, .string n)
  | targetClass t => some (.iri Sh.targetClass, .iri t)
  | property _ => none

def property? : ShapeCall → Option PropertyDraft
  | property d => some d
  | _ => none

/-- The names in the call stand for themselves. -/
def Verbatim : ShapeCall → Prop
  | targetClass t => Graph.Verbatim t
  | name _ => True
  | property _ => True

instance : DecidablePred Verbatim
  | targetClass t => inferInstanceAs (Decidable (Graph.Verbatim t))
  | name _ => inferInstanceAs (Decidable True)
  | property _ => inferInstanceAs (Decidable True)

end ShapeCall

/-- **What a shape is to be**, and the calls that sketch it, in any order. -/
structure ShapeDraft where
  /-- Whether the shape is typed `sh:NodeShape` and not `sh:Shape`. -/
  isNode : Bool
  subject : String
  name : String
  target : String
  properties : List PropertyDraft
  calls : List ShapeCall
  calls_perm : (calls.filter fun c => c.property?.isNone).Perm [.name name, .targetClass target]
  calls_properties : calls.filterMap ShapeCall.property? = properties

namespace ShapeDraft

def sketch (d : ShapeDraft) : ShapeSketch := d.calls.foldl ShapeSketch.call .empty

def type (d : ShapeDraft) : String := if d.isNode then Sh.nodeShape else Sh.shape

/-- What is said of the subject before its property shapes. -/
def pairs (d : ShapeDraft) : List (Term × Term) :=
  (.iri Rdf.type, .iri d.type) :: d.calls.filterMap ShapeCall.pair?

end ShapeDraft

section Labels

variable (fresh : Nat → String)

def ShapesSketch.addDraft (s : ShapesSketch) (d : ShapeDraft) : ShapesSketch :=
  if d.isNode then s.nodeShape fresh d.subject d.sketch else s.shape fresh d.subject d.sketch

/-- The sketch of all the drafts, one after the other. -/
def ShapesSketch.ofDrafts (ds : List ShapeDraft) : ShapesSketch := ds.foldl (addDraft fresh) empty

/-! ## The row of triples -/

open ShapesSketch (propertyNode)

/-- The triples of a subject's property shapes, whose nodes are numbered from `k` on. -/
def propertyTriples (subject : Term) : Nat → List PropertyDraft → List Triple
  | _, [] => []
  | k, d :: ds =>
    ⟨subject, .iri Sh.property, propertyNode fresh k⟩ ::
      (triplesOf (propertyNode fresh k) d.pairs ++ propertyTriples subject (k + 1) ds)

def ShapeDraft.triples (k : Nat) (d : ShapeDraft) : List Triple :=
  triplesOf (.iri d.subject) d.pairs ++ propertyTriples fresh (.iri d.subject) k d.properties

def draftTriples : Nat → List ShapeDraft → List Triple
  | _, [] => []
  | k, d :: ds => d.triples fresh k ++ draftTriples (k + d.properties.length) ds

end Labels

/-! ## From sketches to rows -/

section Sketched

variable {g : Graph} {x : Term}

@[simp] theorem Graph.labels_addPairs (g : Graph) (x : Term) (pairs : List (String × ObjectSketch)) :
    (g.addPairs x pairs).labels = g.labels := by
  induction pairs generalizing g with
  | nil => rfl
  | cons p pairs ih => exact (ih _).trans (labels_insert g _)

theorem Graph.addPairs_append (g : Graph) (x : Term) (pairs : List (String × ObjectSketch))
    (p : String × ObjectSketch) : g.addPairs x (pairs ++ [p]) =
      (g.addPairs x pairs).insert ⟨x, (g.addPairs x pairs).expandName p.1, (g.addPairs x pairs).expandObject p.2⟩ :=
  List.foldl_append

/-- The names that calls write their predicates and their datatype with. -/
theorem expandName_vocabulary : Graph.empty.expandName "sh:name" = .iri Sh.name ∧
    Graph.empty.expandName "sh:path" = .iri Sh.path ∧ Graph.empty.expandName "sh:datatype" = .iri Sh.datatype ∧
    Graph.empty.expandName "sh:node" = .iri Sh.node ∧ Graph.empty.expandName "sh:maxCount" = .iri Sh.maxCount ∧
    Graph.empty.expandName "sh:targetClass" = .iri Sh.targetClass ∧
    Graph.empty.expandName "xsd:integer" = .iri Xsd.integer := by
  decide +kernel

theorem addPairs_propertyCall (hg : g.labels = []) {c : PropertyCall} (hc : c.Verbatim) (p : PropertySketch) :
    g.addPairs x (p.call c).pairs = (g.addPairs x p.pairs).insert ⟨x, c.pair.1, c.pair.2⟩ := by
  have hname := Graph.expandName_of_labels (g := g.addPairs x p.pairs) (by simpa using hg)
  unfold PropertyCall.Verbatim Graph.Verbatim at hc
  cases c <;>
    simp [PropertySketch.call, PropertySketch.name, PropertySketch.path, PropertySketch.datatype, PropertySketch.node,
      PropertySketch.maxCount, PropertySketch.constraint, PropertySketch.pair, Graph.addPairs_append,
      Graph.expandObject, PropertyCall.pair, Term.iri?, expandName_vocabulary, hname, hc]

theorem addPairs_propertyCalls (hg : g.labels = []) {calls : List PropertyCall} (hcalls : ∀ c ∈ calls, c.Verbatim) :
    g.addPairs x (calls.foldl PropertySketch.call .empty).pairs =
      g.insertAll (triplesOf x (calls.map PropertyCall.pair)) := by
  induction calls using List.reverseRecOn with
  | nil => rfl
  | append_singleton calls c ih =>
    rw [List.foldl_append, List.foldl_cons, List.foldl_nil,
      addPairs_propertyCall hg (hcalls c (by simp)), ih fun c hc => hcalls c (List.mem_append_left _ hc),
      List.map_append, triplesOf_append, Graph.insertAll_append]
    rfl

theorem addPairs_shapeCalls (hg : g.labels = []) {calls : List ShapeCall} (hcalls : ∀ c ∈ calls, c.Verbatim) :
    g.addPairs x (calls.foldl ShapeSketch.call .empty).pairs =
      g.insertAll (triplesOf x (calls.filterMap ShapeCall.pair?)) := by
  induction calls using List.reverseRecOn with
  | nil => rfl
  | append_singleton calls c ih =>
    have ih := ih fun c hc => hcalls c (List.mem_append_left _ hc)
    have hc : c.Verbatim := hcalls c (by simp)
    generalize hs : calls.foldl ShapeSketch.call .empty = s at ih
    have hname := Graph.expandName_of_labels (g := g.addPairs x s.pairs) (by simpa using hg)
    rw [List.foldl_append, List.foldl_cons, List.foldl_nil, hs, List.filterMap_append, triplesOf_append,
      Graph.insertAll_append, ← ih]
    unfold ShapeCall.Verbatim Graph.Verbatim at hc
    cases c <;>
      simp [ShapeSketch.call, ShapeSketch.name, ShapeSketch.targetClass, ShapeSketch.property, ShapeSketch.pair,
        Graph.addPairs_append, Graph.expandObject, ShapeCall.pair?, List.filterMap_cons, triplesOf, Graph.insertAll,
        expandName_vocabulary, hname, hc]

theorem properties_shapeCalls (calls : List ShapeCall) : (calls.foldl ShapeSketch.call .empty).properties =
    (calls.filterMap ShapeCall.property?).map PropertyDraft.sketch := by
  induction calls using List.reverseRecOn with
  | nil => rfl
  | append_singleton calls c ih =>
    rw [List.foldl_append, List.foldl_cons, List.foldl_nil, List.filterMap_append, List.map_append, ← ih]
    cases c <;>
      simp [ShapeSketch.call, ShapeSketch.name, ShapeSketch.targetClass, ShapeSketch.property, ShapeSketch.pair,
        ShapeCall.property?]

end Sketched

/-- **The names of a draft stand for themselves.** -/
structure ShapeDraft.Verbatim (d : ShapeDraft) : Prop where
  subject : Graph.Verbatim d.subject
  calls : ∀ c ∈ d.calls, c.Verbatim
  properties : ∀ p ∈ d.properties, ∀ c ∈ p.calls, c.Verbatim

namespace ShapesSketch

variable {fresh : Nat → String} {s : ShapesSketch}

theorem foldl_addProperty (x : Term) : ∀ {ds : List PropertyDraft} {s : ShapesSketch}, s.graph.labels = [] →
    (∀ d ∈ ds, ∀ c ∈ d.calls, c.Verbatim) → (ds.map PropertyDraft.sketch).foldl (addProperty fresh x) s =
      ⟨s.graph.insertAll (propertyTriples fresh x s.nodes ds), s.nodes + ds.length⟩
  | [], _, _, _ => rfl
  | d :: ds, s, hs, hds => by
    rw [List.forall_mem_cons] at hds
    have hlabels : (s.graph.add x (.iri Sh.property) (propertyNode fresh s.nodes)).labels = [] := by
      simpa [Graph.add] using hs
    have hstep : addProperty fresh x s d.sketch =
        ⟨(s.graph.add x (.iri Sh.property) (propertyNode fresh s.nodes)).insertAll
          (triplesOf (propertyNode fresh s.nodes) d.pairs), s.nodes + 1⟩ := by
      rw [addProperty, PropertyDraft.sketch, addPairs_propertyCalls hlabels hds.1, PropertyDraft.pairs]
    rw [List.map_cons, List.foldl_cons, hstep, foldl_addProperty x (by simpa using hlabels) hds.2, propertyTriples,
      Graph.insertAll_cons, Graph.insertAll_append, List.length_cons, Nat.add_right_comm, Nat.add_assoc]
    rfl

/-- **What a draft adds**: its part of the row, with as many new nodes as it has properties. -/
theorem addDraft_eq (hs : s.graph.labels = []) {d : ShapeDraft} (hd : d.Verbatim) :
    s.addDraft fresh d = ⟨s.graph.insertAll (d.triples fresh s.nodes), s.nodes + d.properties.length⟩ := by
  have hshape : s.addDraft fresh d = s.addShape fresh d.type d.subject d.sketch := by
    unfold addDraft ShapeDraft.type
    cases d.isNode <;> rfl
  have hlabels : (s.graph.add (.iri d.subject) (.iri Rdf.type) (.iri d.type)).labels = [] := by
    simpa [Graph.add] using hs
  have hsubject : s.graph.expandName d.subject = .iri d.subject := (Graph.expandName_of_labels hs _).trans hd.subject
  have hproperties : d.sketch.properties = d.properties.map PropertyDraft.sketch := by
    rw [ShapeDraft.sketch, properties_shapeCalls, d.calls_properties]
  rw [hshape, addShape, hsubject, hproperties, ShapeDraft.sketch, addPairs_shapeCalls hlabels hd.calls,
    foldl_addProperty _ (by simpa using hlabels) hd.properties, ShapeDraft.triples, Graph.insertAll_append]
  rfl

theorem graph_foldl_addDraft : ∀ {ds : List ShapeDraft} {s : ShapesSketch}, s.graph.labels = [] →
    (∀ d ∈ ds, d.Verbatim) →
    (ds.foldl (addDraft fresh) s).graph = s.graph.insertAll (draftTriples fresh s.nodes ds)
  | [], _, _, _ => rfl
  | d :: ds, s, hs, hds => by
    rw [List.forall_mem_cons] at hds
    rw [List.foldl_cons, addDraft_eq hs hds.1, graph_foldl_addDraft (by simpa using hs) hds.2, draftTriples,
      Graph.insertAll_append]

/-- **The graph sketched from drafts is the graph of their row of triples.** -/
theorem graph_ofDrafts {ds : List ShapeDraft} (h : ∀ d ∈ ds, d.Verbatim) :
    (ofDrafts fresh ds).graph = Graph.ofList (draftTriples fresh 0 ds) :=
  graph_foldl_addDraft rfl h

end ShapesSketch
end ShapeBinding
