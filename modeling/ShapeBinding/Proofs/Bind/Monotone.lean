import ShapeBinding.Datatype.Builtin
import ShapeBinding.Proofs.Bind
/-!
# Binding less data

A graph may lose triples.  What could be bound before can still be bound then, since every object that is left converts
as before and there are not more of them; the entity is a part of the one before (`Entity.PartOf`): under each property
some of the values are left, in their order, and each nested entity that is left is itself a part of what it was.
-/
namespace ShapeBinding

/-! ## Parts of entities -/

/-- A literal value is a part of itself only, and an entity of those that it is related to. -/
inductive Field.PartOf {ε : Type} (R : ε → ε → Prop) : Field ε → Field ε → Prop
  | literal (v : Value) : PartOf R (.literal v) (.literal v)
  | entity {e e' : ε} (h : R e e') : PartOf R (.entity e) (.entity e')

/-- The values are parts of some of the others, in their order. -/
inductive Slot.PartOf {ε : Type} (R : ε → ε → Prop) : Slot ε → Slot ε → Prop
  | mk {type : Option ValueType} {values values' : List (Field ε)}
      (h : List.SublistForall₂ (Field.PartOf R) values values') : PartOf R ⟨type, values⟩ ⟨type, values'⟩

/-- **One entity is a part of another** if they are over one schema and one subject and, property by property and at
every depth, the values of the one are parts of some values of the other, in their order. -/
inductive Entity.PartOf : Entity → Entity → Prop
  | mk {schema : Schema} {subject : Term} {slots slots' : List (Slot Entity)}
      (h : List.Forall₂ (Slot.PartOf Entity.PartOf) slots slots') :
      PartOf ⟨schema, subject, slots⟩ ⟨schema, subject, slots'⟩

/-! ## Fewer triples -/

theorem Graph.objects_sublist {g g' : Graph} (h : g.toList.Sublist g'.toList) (subject predicate : Term) :
    (g.objects subject predicate).Sublist (g'.objects subject predicate) := by
  rw [objects_eq_objectsIn, objects_eq_objectsIn]
  exact (h.filter _).map _

/-- What is read from fewer objects is a part, value by value, if each object that is left still gives a part of what it
gave. -/
theorem exists_sublistForall₂_of_sublist {α β : Type} {R R' : α → β → Prop} {S : β → β → Prop} {as as' : List α}
    (h : as.Sublist as') (hstep : ∀ a b', R' a b' → ∃ b, R a b ∧ S b b') {bs' : List β}
    (hbs' : List.Forall₂ R' as' bs') : ∃ bs, List.Forall₂ R as bs ∧ List.SublistForall₂ S bs bs' := by
  induction h generalizing bs' with
  | slnil =>
    cases hbs'
    exact ⟨[], .nil, .nil⟩
  | cons a _ ih =>
    cases hbs' with
    | cons _ hrest =>
      obtain ⟨bs, hbs, hpart⟩ := ih hrest
      exact ⟨bs, hbs, .cons_right hpart⟩
  | cons_cons a _ ih =>
    cases hbs' with
    | cons hab' hrest =>
      obtain ⟨b, hab, hS⟩ := hstep _ _ hab'
      obtain ⟨bs, hbs, hpart⟩ := ih hrest
      exact ⟨b :: bs, .cons hab hbs, .cons hS hpart⟩

namespace Binder

variable {b : Binder} {g g' : Graph} {x o : Term} {s : Schema}

/-- The schema is bound from less data as well, wherever it was bound, to a part of the entity. -/
def BindsParts (b : Binder) (g g' : Graph) (s : Schema) : Prop :=
  ∀ x e', b.bindSubject g' x s = .ok e' → ∃ e, b.bindSubject g x s = .ok e ∧ e.PartOf e'

theorem exists_bindObject_partOf {property : String} {kind : ValueKind Schema} {f' : Field Entity}
    (hnested : ∀ t, kind = .nested t → b.BindsParts g g' t) (h : b.bindObject g' property o kind = .ok f') :
    ∃ f, b.bindObject g property o kind = .ok f ∧ f.PartOf Entity.PartOf f' := by
  cases kind with
  | datatype iri =>
    obtain ⟨v, hv, rfl⟩ := bindObject_datatype_eq_ok_iff.1 h
    exact ⟨_, bindObject_datatype_eq_ok_iff.2 ⟨v, hv, rfl⟩, .literal v⟩
  | nested t =>
    obtain ⟨hnode, e', he', rfl⟩ := bindObject_nested_eq_ok_iff.1 h
    obtain ⟨e, he, hpart⟩ := hnested t rfl o e' he'
    exact ⟨_, bindObject_nested_eq_ok_iff.2 ⟨hnode, e, he, rfl⟩, .entity hpart⟩

theorem exists_bindProperty_partOf (hg : g.toList.Sublist g'.toList) {schema : String} {p : Property Schema}
    {slot' : Slot Entity} (hnested : ∀ t, p.kind = .nested t → b.BindsParts g g' t)
    (h : b.bindProperty g' schema x p = .ok slot') :
    ∃ slot, b.bindProperty g schema x p = .ok slot ∧ slot.PartOf Entity.PartOf slot' := by
  obtain ⟨type, values'⟩ := slot'
  obtain ⟨htype, hcount, hvalues'⟩ := bindProperty_eq_ok_iff.1 h
  have hobjects := Graph.objects_sublist hg x (.iri p.path)
  obtain ⟨values, hvalues, hpart⟩ := exists_sublistForall₂_of_sublist hobjects
    (fun o f' hf' => exists_bindObject_partOf (g := g) hnested hf') hvalues'
  refine ⟨⟨type, values⟩, bindProperty_eq_ok_iff.2 ⟨htype, ?_, hvalues⟩, .mk hpart⟩
  rw [Property.allows_iff] at hcount ⊢
  intro max hmax
  calc values.length = (g.objects x (.iri p.path)).length := hvalues.length_eq.symm
    _ ≤ (g'.objects x (.iri p.path)).length := hobjects.length_le
    _ = values'.length := hvalues'.length_eq
    _ ≤ max.toNat := hcount max hmax

/-- **What can be bound can be bound from less data**, to a part of the entity.  By induction on the schema: the nested
entities are bound from less data too. -/
theorem bindsParts_of_sublist (hg : g.toList.Sublist g'.toList) (s : Schema) : b.BindsParts g g' s := by
  induction s using Schema.induction with
  | h s ih =>
    rintro x ⟨schema, subject, slots'⟩ he'
    obtain ⟨rfl, rfl, hslots'⟩ := bindSubject_eq_ok_iff.1 he'
    have hstep : List.Forall₂ (fun p slot' => ∃ slot, b.bindProperty g schema.name subject p = .ok slot ∧
        slot.PartOf Entity.PartOf slot') schema.properties slots' := by
      refine List.forall₂_iff_zip.2 ⟨hslots'.length_eq, fun {p slot'} hc => ?_⟩
      refine exists_bindProperty_partOf hg (fun t ht => ih t ?_) ((List.forall₂_iff_zip.1 hslots').2 hc)
      exact Schema.mem_dependencies.2 ⟨p, (List.of_mem_zip hc).1, ht⟩
    obtain ⟨slots, hslots, hparts⟩ := exists_forall₂_and_iff.2 hstep
    exact ⟨⟨schema, subject, slots⟩, bindSubject_eq_ok_iff.2 ⟨rfl, rfl, hslots⟩, .mk hparts⟩

/-- **Removing data never breaks a binding.**  If the triples of a graph are a subsequence of another's, a subject that
is bound in the other one is bound in it too, to a part of that entity; so a subject that is not bound is not bound
either after triples are added. -/
theorem bindSubject_of_sublist (b : Binder) (s : Schema) (x : Term) (hg : g.toList.Sublist g'.toList) :
    (∀ e', b.bindSubject g' x s = .ok e' → ∃ e, b.bindSubject g x s = .ok e ∧ e.PartOf e') ∧
    ∀ err, b.bindSubject g x s = .error err → ∃ err', b.bindSubject g' x s = .error err' := by
  refine ⟨bindsParts_of_sublist hg s x, fun err herr => ?_⟩
  cases he' : b.bindSubject g' x s with
  | error err' => exact ⟨err', rfl⟩
  | ok e' =>
    obtain ⟨e, he, -⟩ := bindsParts_of_sublist hg s x e' he'
    cases herr.symm.trans he

end Binder

/-! ## A folder that loses a sheet and a title -/

namespace Example

def sheetSchema : Schema :=
  ⟨"Sheet", "http://example.org/Sheet", none, .iri "http://example.org/SheetShape",
    [⟨"title", "http://example.org/title", .datatype Xsd.string, some 2, [], none, none⟩]⟩

def folderSchema : Schema :=
  ⟨"Folder", "http://example.org/Folder", none, .iri "http://example.org/FolderShape",
    [⟨"sheet", "http://example.org/sheet", .nested sheetSchema, some 2, [], none, none⟩]⟩

def fullFolder : Graph := .ofList [
  ⟨.iri "http://example.org/f", .iri "http://example.org/sheet", .blank "a"⟩,
  ⟨.iri "http://example.org/f", .iri "http://example.org/sheet", .blank "b"⟩,
  ⟨.blank "b", .iri "http://example.org/title", .string "B"⟩,
  ⟨.blank "b", .iri "http://example.org/title", .string "Bee"⟩]

def thinFolder : Graph := .ofList [
  ⟨.iri "http://example.org/f", .iri "http://example.org/sheet", .blank "b"⟩,
  ⟨.blank "b", .iri "http://example.org/title", .string "Bee"⟩]

def folder : Entity :=
  ⟨folderSchema, .iri "http://example.org/f", [⟨none, [
    .entity ⟨sheetSchema, .blank "a", [⟨some .string, []⟩]⟩,
    .entity ⟨sheetSchema, .blank "b", [⟨some .string, [.literal (.string "B"), .literal (.string "Bee")]⟩]⟩]⟩]⟩

theorem bindSubject_fullFolder : (Binder.mk default .builtin true).bindSubject fullFolder (.iri "http://example.org/f")
    folderSchema = .ok folder := by
  rfl

end Example

open Example in
/-- One sheet is left, with one of its titles. -/
theorem Binder.bindSubject_of_sublist_folder : thinFolder.toList.Sublist fullFolder.toList ∧
    (Binder.mk default .builtin true).bindSubject fullFolder (.iri "http://example.org/f") folderSchema = .ok folder ∧
    ∃ e, (Binder.mk default .builtin true).bindSubject thinFolder (.iri "http://example.org/f") folderSchema = .ok e ∧
      e.PartOf folder := by
  have hsublist : thinFolder.toList.Sublist fullFolder.toList := by decide +kernel
  have hparts := (bindSubject_of_sublist (Binder.mk default .builtin true) folderSchema (.iri "http://example.org/f")
    hsublist).1
  exact ⟨hsublist, bindSubject_fullFolder, hparts folder bindSubject_fullFolder⟩

end ShapeBinding
