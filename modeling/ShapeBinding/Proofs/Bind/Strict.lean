import ShapeBinding.Proofs.Bind.Exact
import ShapeBinding.Proofs.Bind.Monotone
/-!
# Binding strictly

A strict binder holds the datatype of every literal against the declared one, and a lenient one does not.  The check
comes between two others, whether there is a literal at all and whether it can be decoded, so it could tell of a literal
what a lenient binder tells otherwise; but where a lenient binder accepts, the others have nothing to tell.  So a strict
binder accepts what a lenient one does, with the same entity, or it tells of a literal of another datatype
(`Binder.mismatch_of_leniently`), and there is such a literal just when it does not accept
(`Binder.strict_only_rejects`).
-/
namespace ShapeBinding
namespace Binder

/-- The binder that checks the datatypes of literals. -/
def strictly (b : Binder) : Binder := { b with strict := true }

/-- The binder that does not. -/
def leniently (b : Binder) : Binder := { b with strict := false }

/-- **A literal of another datatype is read**: it stands under a property with a datatype, which is not its own, of the
subject or of a node that is nested in it at some depth. -/
inductive Mismatch (g : Graph) : Term → Schema → (property declared found : String) → Prop
  | here {x : Term} {s : Schema} {p : Property Schema} {iri : String} {l : Literal} (hp : p ∈ s.properties)
      (hk : p.kind = .datatype iri) (hl : ⟨x, .iri p.path, .literal l⟩ ∈ g.toList) (hne : l.datatype ≠ iri) :
      Mismatch g x s p.name iri l.datatype
  | nested {x o : Term} {s t : Schema} {p : Property Schema} {property declared found : String} (hp : p ∈ s.properties)
      (hk : p.kind = .nested t) (ho : ⟨x, .iri p.path, o⟩ ∈ g.toList) (hnode : o.isNode = true)
      (h : Mismatch g o t property declared found) : Mismatch g x s property declared found

variable {b : Binder} {g : Graph} {x o : Term} {s : Schema} {p : Property Schema} {e : Entity} {err : BindError}

/-! ## What a strict binder accepts -/

theorem Converts.leniently {f : Field Entity} (h : b.strictly.Converts g p o f)
    (hnested : ∀ t, p.kind = .nested t → ∀ e, b.strictly.bindSubject g o t = .ok e →
      b.leniently.bindSubject g o t = .ok e) : b.leniently.Converts g p o f := by
  cases f with
  | literal v =>
    obtain ⟨iri, l, hk, ho, -, hdecode⟩ := h
    exact ⟨iri, l, hk, ho, nofun, hdecode⟩
  | entity e =>
    obtain ⟨t, hk, hnode, hbound⟩ := h
    exact ⟨t, hk, hnode, hnested t hk e hbound⟩

/-- **What is bound strictly is bound leniently**, to the same entity.  By induction on the schema. -/
theorem leniently_of_strictly (h : b.strictly.bindSubject g x s = .ok e) : b.leniently.bindSubject g x s = .ok e := by
  induction s using Schema.induction generalizing x e with
  | h s ih =>
    have hconverts : ∀ p ∈ s.properties, ∀ o f, b.strictly.Converts g p o f → b.leniently.Converts g p o f := by
      intro p hp o f hf
      exact hf.leniently fun t ht e he => ih t (Schema.mem_dependencies.2 ⟨p, hp, ht⟩) he
    obtain ⟨hadmits, hschema, hsubject, hholds⟩ := bindSubject_eq_ok_iff_holds.1 h
    refine bindSubject_eq_ok_iff_holds.2 ⟨fun p hp => ⟨fun o ho => ?_, (hadmits p hp).count_le⟩, hschema, hsubject, ?_⟩
    · obtain ⟨f, hf⟩ := (hadmits p hp).converts o ho
      exact ⟨f, hconverts p hp o f hf⟩
    · rw [List.forall₂_iff_zip] at hholds ⊢
      refine ⟨hholds.1, fun {p slot} hc => ?_⟩
      have hslot := hholds.2 hc
      exact ⟨hslot.valueType_eq, hslot.values_eq.imp (hconverts p (List.of_mem_zip hc).1)⟩

/-- **Where a literal of another datatype is read, nothing is bound strictly.**  By induction on how deep it is. -/
theorem Mismatch.not_strictly {property declared found : String} (h : Mismatch g x s property declared found) :
    ∀ e, b.strictly.bindSubject g x s ≠ .ok e := by
  induction h with
  | @here x s p iri l hp hk hl hne =>
    intro e he
    have hadmits := (bindSubject_eq_ok_iff_holds.1 he).1 p hp
    obtain ⟨f, hf⟩ := hadmits.converts (.literal l) (mem_objectsIn.2 hl)
    cases f with
    | literal v =>
      obtain ⟨iri', l', hk', ho, hdatatype, -⟩ := hf
      cases hk.symm.trans hk'
      cases ho
      exact hne (hdatatype rfl)
    | entity m =>
      obtain ⟨t, hk', -⟩ := hf
      cases hk.symm.trans hk'
  | @nested x o s t p property declared found hp hk ho hnode h ih =>
    intro e he
    have hadmits := (bindSubject_eq_ok_iff_holds.1 he).1 p hp
    obtain ⟨f, hf⟩ := hadmits.converts o (mem_objectsIn.2 ho)
    cases f with
    | literal v =>
      obtain ⟨iri, l, hk', -⟩ := hf
      cases hk.symm.trans hk'
    | entity m =>
      obtain ⟨t', hk', -, hbound⟩ := hf
      cases hk.symm.trans hk'
      exact ih m hbound

/-! ## What a strict binder tells -/

/-- **Of an object that converts leniently, a strict binder can only tell another datatype**, or what it tells of a
nested node that is bound leniently. -/
theorem Rejects.of_converts {f : Field Entity} (h : b.strictly.Rejects g p o err) (hf : b.leniently.Converts g p o f) :
    (∃ iri l, p.kind = .datatype iri ∧ o = .literal l ∧ l.datatype ≠ iri ∧
      err = .otherDatatype p.name iri l.datatype) ∨
    ∃ t m, p.kind = .nested t ∧ o.isNode = true ∧ b.leniently.bindSubject g o t = .ok m ∧
      b.strictly.bindSubject g o t = .error err := by
  cases f with
  | literal v =>
    obtain ⟨iri, l, hk, rfl, -, hdecode⟩ := hf
    cases h with
    | notLiteral _ ho => cases ho
    | otherDatatype hk' ho _ hne =>
      cases ho
      exact .inl ⟨_, l, hk', rfl, hne, rfl⟩
    | undecodable hk' ho _ hfails =>
      cases hk.symm.trans hk'
      cases ho
      cases hdecode.symm.trans hfails
    | notNode hk' _ => cases hk.symm.trans hk'
    | nested hk' _ _ => cases hk.symm.trans hk'
  | entity m =>
    obtain ⟨t, hk, hnode, hbound⟩ := hf
    cases h with
    | notNode _ ho => simp [Term.isNode, ho] at hnode
    | nested hk' _ hfails =>
      cases hk.symm.trans hk'
      exact .inr ⟨_, m, hk', hnode, hbound, hfails⟩
    | _ hk' => cases hk.symm.trans hk'

/-- **Where a lenient binder accepts, a strict one tells of a literal that is read and has another datatype**, if
anything.  By induction on the schema. -/
theorem mismatch_of_leniently (hlenient : b.leniently.bindSubject g x s = .ok e)
    (hstrict : b.strictly.bindSubject g x s = .error err) : ∃ property declared found,
      Mismatch g x s property declared found ∧ err = .otherDatatype property declared found := by
  induction s using Schema.induction generalizing x e with
  | h s ih =>
    obtain ⟨before, p, after, hps, -, hfails⟩ := bindSubject_eq_error_iff.1 hstrict
    have hp : p ∈ s.properties := by simp [hps]
    have hadmits := (bindSubject_eq_ok_iff_holds.1 hlenient).1 p hp
    cases hfails with
    | @count max _ hmax hlt => exact absurd (hadmits.count_le max hmax) (Nat.not_le.2 hlt)
    | object hfirst =>
      obtain ⟨before, o, after, hos, -, hrejects⟩ := hfirst
      have ho : o ∈ objectsIn g.toList x (.iri p.path) := by simp [hos]
      obtain ⟨f, hf⟩ := hadmits.converts o ho
      rcases hrejects.of_converts hf with ⟨iri, l, hk, rfl, hne, rfl⟩ | ⟨t, m, hk, hnode, hbound, hfails⟩
      · exact ⟨_, _, _, .here hp hk (mem_objectsIn.1 ho) hne, rfl⟩
      · obtain ⟨property, declared, found, hm, rfl⟩ := ih t (Schema.mem_dependencies.2 ⟨p, hp, hk⟩) hbound hfails
        exact ⟨property, declared, found, .nested hp hk (mem_objectsIn.1 ho) hnode hm, rfl⟩

/-- **Checking the datatypes of literals only rejects.**  What is bound strictly is bound leniently, to the same entity.
What is bound leniently is bound strictly to the same entity, or else the strict binder tells of a literal of another
datatype that is read; and this happens just when such a literal is read, at whichever depth. -/
theorem strict_only_rejects (b : Binder) (g : Graph) (x : Term) (s : Schema) :
    (∀ e, b.strictly.bindSubject g x s = .ok e → b.leniently.bindSubject g x s = .ok e) ∧
    ∀ e, b.leniently.bindSubject g x s = .ok e →
      (b.strictly.bindSubject g x s = .ok e ∨ ∃ property declared found, Mismatch g x s property declared found ∧
        b.strictly.bindSubject g x s = .error (.otherDatatype property declared found)) ∧
      ((∃ property declared found,
          b.strictly.bindSubject g x s = .error (.otherDatatype property declared found)) ↔
        ∃ property declared found, Mismatch g x s property declared found) := by
  refine ⟨fun e => leniently_of_strictly, fun e hlenient => ?_⟩
  cases hstrict : b.strictly.bindSubject g x s with
  | ok e' =>
    obtain rfl : e' = e := by
      cases (leniently_of_strictly hstrict).symm.trans hlenient
      rfl
    refine ⟨.inl rfl, by simp, ?_⟩
    rintro ⟨property, declared, found, hmismatch⟩
    exact absurd hstrict (hmismatch.not_strictly e')
  | error err =>
    obtain ⟨property, declared, found, hmismatch, rfl⟩ := mismatch_of_leniently hlenient hstrict
    exact ⟨.inr ⟨_, _, _, hmismatch, rfl⟩, fun _ => ⟨_, _, _, hmismatch⟩, fun _ => ⟨_, _, _, rfl⟩⟩

end Binder

/-! ## A folder with a sheet that has a number as its title -/

namespace Example

def numberedFolder : Graph := .ofList [
  ⟨.iri "http://example.org/f", .iri "http://example.org/sheet", .blank "a"⟩,
  ⟨.iri "http://example.org/f", .iri "http://example.org/sheet", .blank "b"⟩,
  ⟨.blank "b", .iri "http://example.org/title", .literal ⟨"7", Xsd.integer, none⟩⟩]

def numbered : Entity :=
  ⟨folderSchema, .iri "http://example.org/f", [⟨none, [
    .entity ⟨sheetSchema, .blank "a", [⟨some .string, []⟩]⟩,
    .entity ⟨sheetSchema, .blank "b", [⟨some .string, [.literal (.string "7")]⟩]⟩]⟩]⟩

theorem bindSubject_numberedFolder : (Binder.mk default .builtin false).leniently.bindSubject numberedFolder
    (.iri "http://example.org/f") folderSchema = .ok numbered := by
  rfl

theorem mismatch_numberedFolder : Binder.Mismatch numberedFolder (.iri "http://example.org/f") folderSchema
    "title" Xsd.string Xsd.integer := by
  have hsheet : (⟨.iri "http://example.org/f", .iri "http://example.org/sheet", .blank "b"⟩ : Triple) ∈
      numberedFolder.toList := by decide +kernel
  have htitle : (⟨.blank "b", .iri "http://example.org/title", .literal ⟨"7", Xsd.integer, none⟩⟩ : Triple) ∈
      numberedFolder.toList := by decide +kernel
  have hne : Xsd.integer ≠ Xsd.string := by decide
  have hhere := Binder.Mismatch.here (s := sheetSchema) (List.mem_singleton_self _) rfl htitle hne
  exact .nested (List.mem_singleton_self _) rfl hsheet rfl hhere

end Example

open Example in
/-- The title of the second sheet is read leniently, and told of strictly. -/
theorem Binder.strict_only_rejects_numbered :
    (Binder.mk default .builtin false).leniently.bindSubject numberedFolder (.iri "http://example.org/f") folderSchema =
      .ok numbered ∧
    ∃ property declared found, (Binder.mk default .builtin false).strictly.bindSubject numberedFolder
      (.iri "http://example.org/f") folderSchema = .error (.otherDatatype property declared found) := by
  have hstrict := (strict_only_rejects (Binder.mk default .builtin false) numberedFolder (.iri "http://example.org/f")
    folderSchema).2 numbered bindSubject_numberedFolder
  exact ⟨bindSubject_numberedFolder, hstrict.2.2 ⟨_, _, _, mismatch_numberedFolder⟩⟩

end ShapeBinding
