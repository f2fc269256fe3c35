import ShapeBinding.Proofs.Bind
import ShapeBinding.Proofs.Refused
/-!
# What binding means

Binding is described here object by object and property by property: what an object converts to (`Binder.Converts`) and
why it does not (`Binder.Rejects`), when a property is admitted (`Binder.Admits`) and which fault it has otherwise
(`Binder.Fails`).  A subject is bound just when all its properties are admitted, and else the error is the fault of the
first one that is not; a schema is bound from the one subject of its type, if there is just one
(`Binder.bindSubject_and_bind_exact`).
-/
namespace ShapeBinding
namespace Binder

variable {b : Binder} {g : Graph} {x o : Term} {s : Schema} {p : Property Schema} {err : BindError}

/-! ## Objects -/

/-- **What an object converts to under a property**: a literal to the value of its lexical form under the declared
datatype, and a node to the entity that it is bound to. -/
def Converts (b : Binder) (g : Graph) (p : Property Schema) (o : Term) : Field Entity → Prop
  | .literal v => ∃ iri l, p.kind = .datatype iri ∧ o = .literal l ∧ (b.strict = true → l.datatype = iri) ∧
      b.datatypes.decode iri l.lexical = .ok v
  | .entity e => ∃ t, p.kind = .nested t ∧ o.isNode = true ∧ b.bindSubject g o t = .ok e

/-- **Why an object does not convert under a property.** -/
inductive Rejects (b : Binder) (g : Graph) (p : Property Schema) (o : Term) : BindError → Prop
  | notLiteral {iri : String} (hk : p.kind = .datatype iri) (ho : o.isNode = true) :
      Rejects b g p o (.notLiteral p.name o)
  | otherDatatype {iri : String} {l : Literal} (hk : p.kind = .datatype iri) (ho : o = .literal l)
      (hstrict : b.strict = true) (hne : l.datatype ≠ iri) : Rejects b g p o (.otherDatatype p.name iri l.datatype)
  | undecodable {iri : String} {l : Literal} {e : ConvertError} (hk : p.kind = .datatype iri) (ho : o = .literal l)
      (hstrict : b.strict = true → l.datatype = iri) (hdecode : b.datatypes.decode iri l.lexical = .error e) :
      Rejects b g p o (.convert p.name e)
  | notNode {t : Schema} (hk : p.kind = .nested t) (ho : o.isLiteral = true) : Rejects b g p o (.notNode p.name o)
  | nested {t : Schema} {err : BindError} (hk : p.kind = .nested t) (ho : o.isNode = true)
      (hbind : b.bindSubject g o t = .error err) : Rejects b g p o err

theorem bindObject_eq_ok_iff {f : Field Entity} : b.bindObject g p.name o p.kind = .ok f ↔ b.Converts g p o f := by
  cases hk : p.kind with
  | datatype iri =>
    simp only [bindObject_datatype_eq_ok_iff, bindLiteral_eq_ok_iff]
    cases f with
    | literal v => simp [Converts, hk]
    | entity e => simp [Converts, hk]
  | nested t =>
    rw [bindObject_nested_eq_ok_iff]
    cases f with
    | literal v => simp [Converts, hk]
    | entity e => simp [Converts, hk]

theorem bindLiteral_eq_error_iff {iri : String} (hk : p.kind = .datatype iri) :
    b.bindLiteral p.name iri o = .error err ↔ b.Rejects g p o err := by
  constructor
  · intro h
    cases o with
    | iri i =>
      cases h
      exact .notLiteral hk rfl
    | blank l =>
      cases h
      exact .notLiteral hk rfl
    | literal l =>
      by_cases hother : b.strict = true ∧ l.datatype ≠ iri
      · rw [bindLiteral, if_pos hother] at h
        cases h
        exact .otherDatatype hk rfl hother.1 hother.2
      · rw [bindLiteral, if_neg hother] at h
        cases hdecode : b.datatypes.decode iri l.lexical with
        | ok v => simp [hdecode] at h
        | error e =>
          simp only [hdecode, Except.error.injEq] at h
          exact h ▸ .undecodable hk rfl (by simpa using hother) hdecode
  · intro h
    cases h with
    | notLiteral _ ho => cases o <;> first | rfl | cases ho
    | otherDatatype hk' ho hstrict hne =>
      rw [hk] at hk'
      cases hk'
      simp [bindLiteral, ho, hstrict, hne]
    | undecodable hk' ho hstrict hdecode =>
      rw [hk] at hk'
      cases hk'
      rw [ho, bindLiteral, if_neg (by simpa using hstrict), hdecode]
    | notNode hk' _ => simp [hk] at hk'
    | nested hk' _ _ => simp [hk] at hk'

theorem bindObject_eq_error_iff : b.bindObject g p.name o p.kind = .error err ↔ b.Rejects g p o err := by
  cases hk : p.kind with
  | datatype iri =>
    rw [← bindLiteral_eq_error_iff hk, bindObject, bind_eq_error_iff]
    simp
  | nested t =>
    rw [bindObject]
    by_cases ho : o.isLiteral = true
    · rw [if_pos ho]
      constructor
      · intro h
        cases h
        exact .notNode hk ho
      · intro h
        cases h with
        | notNode _ _ => rfl
        | nested _ hnode _ => simp [Term.isNode, ho] at hnode
        | _ hk' => simp [hk] at hk'
    · have hnode : o.isNode = true := by simpa [Term.isNode] using ho
      rw [if_neg ho, bind_eq_error_iff]
      simp only [reduceCtorEq, and_false, exists_false, or_false]
      constructor
      · exact .nested hk hnode
      · intro h
        cases h with
        | notNode _ hliteral => exact absurd hliteral ho
        | nested hk' _ hbind =>
          rw [hk] at hk'
          cases hk'
          exact hbind
        | _ hk' => simp [hk] at hk'

/-! ## Properties -/

/-- **A property is admitted**: all its objects convert, and there are not too many of them. -/
structure Admits (b : Binder) (g : Graph) (x : Term) (p : Property Schema) : Prop where
  converts : ∀ o ∈ objectsIn g.toList x (.iri p.path), ∃ f, b.Converts g p o f
  count_le : ∀ max, p.maxCount = some max → (objectsIn g.toList x (.iri p.path)).length ≤ max.toNat

/-- **The fault of a property**: that of its first object that does not convert, or the number of its objects if they
all convert. -/
inductive Fails (b : Binder) (g : Graph) (schema : String) (x : Term) (p : Property Schema) : BindError → Prop
  | object {err : BindError} (h : FirstFails (fun o => ∃ f, b.Converts g p o f) (fun o => b.Rejects g p o err)
      (objectsIn g.toList x (.iri p.path))) : Fails b g schema x p err
  | count {max : UInt32} (hall : ∀ o ∈ objectsIn g.toList x (.iri p.path), ∃ f, b.Converts g p o f)
      (hmax : p.maxCount = some max) (hlt : max.toNat < (objectsIn g.toList x (.iri p.path)).length) :
      Fails b g schema x p (.tooManyValues schema p.name max (objectsIn g.toList x (.iri p.path)).length)

/-- **A slot holds what the objects of its property convert to**, one value for each object and in their order. -/
structure Holds (b : Binder) (g : Graph) (x : Term) (p : Property Schema) (slot : Slot Entity) : Prop where
  valueType_eq : slot.valueType = Entity.literalType? b.datatypes p
  values_eq : List.Forall₂ (b.Converts g p) (objectsIn g.toList x (.iri p.path)) slot.values

theorem checkCount_eq_error_iff {schema : String} {count : Nat} : p.checkCount schema count = .error err ↔
    ∃ max, p.maxCount = some max ∧ max.toNat < count ∧ err = .tooManyValues schema p.name max count := by
  unfold Property.checkCount
  cases hmax : p.maxCount with
  | none => simp
  | some max =>
    simp only [Property.allows, hmax, Option.all_some, decide_eq_true_eq, Option.some.injEq, exists_eq_left']
    by_cases h : count ≤ max.toNat
    · simp [h, Nat.not_lt.2 h]
    · simp [h, Nat.lt_of_not_le h, eq_comm]

theorem bindProperty_eq_ok_iff_holds {schema : String} {slot : Slot Entity} :
    b.bindProperty g schema x p = .ok slot ↔ b.Admits g x p ∧ b.Holds g x p slot := by
  rw [bindProperty_eq_ok_iff, Graph.objects_eq_objectsIn, Property.allows_iff]
  simp only [bindObject_eq_ok_iff]
  constructor
  · rintro ⟨htype, hcount, hvalues⟩
    refine ⟨⟨exists_forall₂_iff.1 ⟨_, hvalues⟩, fun max hmax => ?_⟩, htype, hvalues⟩
    rw [hvalues.length_eq]
    exact hcount max hmax
  · rintro ⟨hadmits, htype, hvalues⟩
    refine ⟨htype, fun max hmax => ?_, hvalues⟩
    rw [← hvalues.length_eq]
    exact hadmits.count_le max hmax

theorem exists_bindProperty_iff {schema : String} :
    (∃ slot, b.bindProperty g schema x p = .ok slot) ↔ b.Admits g x p := by
  simp only [bindProperty_eq_ok_iff_holds]
  constructor
  · rintro ⟨slot, hadmits, -⟩
    exact hadmits
  · intro hadmits
    obtain ⟨values, hvalues⟩ := exists_forall₂_iff.2 hadmits.converts
    exact ⟨⟨_, values⟩, hadmits, rfl, hvalues⟩

theorem bindProperty_eq_error_iff {schema : String} :
    b.bindProperty g schema x p = .error err ↔ b.Fails g schema x p err := by
  rw [bindProperty_eq, Graph.objects_eq_objectsIn, bind_eq_error_iff, mapM_eq_error_iff]
  simp only [bind_eq_error_iff, checkCount_eq_error_iff, mapM_eq_ok_iff, bindObject_eq_ok_iff, bindObject_eq_error_iff,
    reduceCtorEq, and_false, exists_false, or_false]
  constructor
  · rintro (h | ⟨values, hvalues, max, hmax, hlt, rfl⟩)
    · exact .object h
    · rw [← hvalues.length_eq] at hlt ⊢
      exact .count (exists_forall₂_iff.1 ⟨values, hvalues⟩) hmax hlt
  · intro h
    cases h with
    | object h => exact .inl h
    | count hall hmax hlt =>
      obtain ⟨values, hvalues⟩ := exists_forall₂_iff.2 hall
      rw [hvalues.length_eq] at hlt ⊢
      exact .inr ⟨values, hvalues, _, hmax, hlt, rfl⟩

/-! ## Subjects -/

theorem exists_bindSubject_iff : (∃ e, b.bindSubject g x s = .ok e) ↔ ∀ p ∈ s.properties, b.Admits g x p := by
  have hproperties : (∃ slots, s.properties.mapM (b.bindProperty g s.name x) = .ok slots) ↔
      ∀ p ∈ s.properties, b.Admits g x p := by
    simp only [exists_mapM_eq_ok_iff, exists_bindProperty_iff]
  rw [← hproperties, bindSubject_eq, bindProperties_eq_mapM]
  simp only [bind_eq_ok_iff]
  exact ⟨fun ⟨_, slots, h, _⟩ => ⟨slots, h⟩, fun ⟨slots, h⟩ => ⟨_, slots, h, rfl⟩⟩

theorem bindSubject_eq_ok_iff_holds {e : Entity} : b.bindSubject g x s = .ok e ↔
    (∀ p ∈ s.properties, b.Admits g x p) ∧ e.schema = s ∧ e.subject = x ∧
      List.Forall₂ (b.Holds g x) s.properties e.slots := by
  simp only [bindSubject_eq_ok_iff, bindProperty_eq_ok_iff_holds, List.forall₂_and_left]
  constructor
  · rintro ⟨hschema, hsubject, hadmits, hholds⟩
    exact ⟨hadmits, hschema, hsubject, hholds⟩
  · rintro ⟨hadmits, hschema, hsubject, hholds⟩
    exact ⟨hschema, hsubject, hadmits, hholds⟩

theorem bindSubject_eq_error_iff : b.bindSubject g x s = .error err ↔
    FirstFails (b.Admits g x) (fun p => b.Fails g s.name x p err) s.properties := by
  rw [bindSubject_eq, bindProperties_eq_mapM, bind_eq_error_iff, mapM_eq_error_iff]
  simp only [reduceCtorEq, and_false, exists_false, or_false, exists_bindProperty_iff, bindProperty_eq_error_iff]

/-! ## Schemas -/

/-- The subject is the one of the schema's target type. -/
def IsOnlyRoot (g : Graph) (s : Schema) (x : Term) : Prop :=
  ∀ y, ⟨y, .iri Rdf.type, .iri s.targetType⟩ ∈ g.toList ↔ y = x

theorem roots_eq_nil_iff : roots g s = [] ↔ ∀ y, ⟨y, .iri Rdf.type, .iri s.targetType⟩ ∉ g.toList := by
  simp only [List.eq_nil_iff_forall_not_mem, mem_roots]

theorem perm_roots {subjects : List Term} (hnodup : subjects.Nodup)
    (h : ∀ y, y ∈ subjects ↔ ⟨y, .iri Rdf.type, .iri s.targetType⟩ ∈ g.toList) : subjects.Perm (roots g s) :=
  (List.perm_ext_iff_of_nodup hnodup (Graph.nodup_subjects ..)).2 fun y => (h y).trans mem_roots.symm

theorem roots_eq_singleton_iff : roots g s = [x] ↔ IsOnlyRoot g s x := by
  constructor
  · intro h y
    rw [← mem_roots, h, List.mem_singleton]
  · intro h
    exact List.perm_singleton.1 (perm_roots (List.nodup_singleton x) fun y => List.mem_singleton.trans (h y).symm).symm

/-- **The fault of a schema's target type**: no subject, several, or one that is not bound. -/
inductive RootFails (b : Binder) (g : Graph) (s : Schema) : BindError → Prop
  | none (h : ∀ y, ⟨y, .iri Rdf.type, .iri s.targetType⟩ ∉ g.toList) : RootFails b g s (.noRoot s.name s.targetType)
  | several {subjects : List Term} (hnodup : subjects.Nodup) (hlength : 2 ≤ subjects.length)
      (h : ∀ y, y ∈ subjects ↔ ⟨y, .iri Rdf.type, .iri s.targetType⟩ ∈ g.toList) :
      RootFails b g s (.severalRoots s.name s.targetType subjects.length)
  | subject {x : Term} {err : BindError} (hx : IsOnlyRoot g s x) (h : b.bindSubject g x s = .error err) :
      RootFails b g s err

theorem bind_eq_ok_iff_isOnlyRoot {e : Entity} :
    b.bind g s = .ok e ↔ ∃ root, IsOnlyRoot g s root ∧ b.bindSubject g root s = .ok e := by
  simp only [← roots_eq_singleton_iff, bind_eq_ok_iff_roots]

theorem rootFails_iff : b.RootFails g s err ↔ (roots g s = [] ∧ err = .noRoot s.name s.targetType) ∨
    (2 ≤ (roots g s).length ∧ err = .severalRoots s.name s.targetType (roots g s).length) ∨
    ∃ root, roots g s = [root] ∧ b.bindSubject g root s = .error err := by
  constructor
  · intro h
    cases h with
    | none h => exact .inl ⟨roots_eq_nil_iff.2 h, rfl⟩
    | several hnodup hlength h =>
      rw [(perm_roots hnodup h).length_eq] at hlength ⊢
      exact .inr (.inl ⟨hlength, rfl⟩)
    | subject hx h => exact .inr (.inr ⟨_, roots_eq_singleton_iff.2 hx, h⟩)
  · rintro (⟨h, rfl⟩ | ⟨hlength, rfl⟩ | ⟨root, hroot, h⟩)
    · exact .none (roots_eq_nil_iff.1 h)
    · exact .several (Graph.nodup_subjects ..) hlength fun y => mem_roots
    · exact .subject (roots_eq_singleton_iff.1 hroot) h

theorem bind_eq_error_iff_rootFails : b.bind g s = .error err ↔ b.RootFails g s err := by
  rw [rootFails_iff]
  unfold bind
  cases roots g s with
  | nil => simp [eq_comm]
  | cons root roots => cases roots <;> simp [eq_comm]

/-- **What binding means.**  A subject is bound just when under each property all its objects convert and are not too
many; the entity then holds, under each property, what the distinct objects convert to, one value for each and in graph
order.  Otherwise the error is the fault of the first property that is not admitted.  A schema is bound just when one
subject is of its target type and is bound, and otherwise the error says why there is none. -/
theorem bindSubject_and_bind_exact (b : Binder) (g : Graph) (s : Schema) :
    (∀ x, (∀ p ∈ s.properties, (objectsIn g.toList x (.iri p.path)).Nodup) ∧
      ((∃ e, b.bindSubject g x s = .ok e) ↔ ∀ p ∈ s.properties, b.Admits g x p) ∧
      (∀ e, b.bindSubject g x s = .ok e ↔ (∀ p ∈ s.properties, b.Admits g x p) ∧
        e.schema = s ∧ e.subject = x ∧ List.Forall₂ (b.Holds g x) s.properties e.slots) ∧
      ∀ err, b.bindSubject g x s = .error err ↔
        FirstFails (b.Admits g x) (fun p => b.Fails g s.name x p err) s.properties) ∧
    (∀ e, b.bind g s = .ok e ↔ ∃ root, IsOnlyRoot g s root ∧ b.bindSubject g root s = .ok e) ∧
    ∀ err, b.bind g s = .error err ↔ b.RootFails g s err := by
  refine ⟨fun x => ⟨fun p _ => nodup_objectsIn g.nodup x _, exists_bindSubject_iff,
    fun e => bindSubject_eq_ok_iff_holds, fun err => bindSubject_eq_error_iff⟩,
    fun e => bind_eq_ok_iff_isOnlyRoot, fun err => bind_eq_error_iff_rootFails⟩

end Binder
end ShapeBinding
