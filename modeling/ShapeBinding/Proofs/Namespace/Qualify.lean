import ShapeBinding.Proofs.Namespace
import ShapeBinding.Proofs.Text.Bytes
/-!
# Qualified names

The first entry whose base begins an IRI has the longest such base and the least label for it, since the entries are in
the order of preference; no other entry is as good (`Namespaces.qualify?_eq_some_iff`).  Expanding a qualified name
finds the entry of its label again, provided that no label has a colon in it, so it gives back the IRI that was
shortened (`Namespaces.expand?_text_of_qualify?`).
-/
namespace ShapeBinding

theorem utf8_append (s t : String) : utf8 (s ++ t) = utf8 s ++ utf8 t := by
  rw [utf8, utf8, utf8, String.toUTF8, String.toUTF8, String.toUTF8, String.toByteArray_append, ByteArray.data_append,
    Array.toList_append]

/-- Two texts of one length that begin the same text are equal. -/
theorem append_inj_of_size {s t x y : String} (h : s ++ x = t ++ y) (hsize : s.utf8ByteSize = t.utf8ByteSize) :
    s = t := by
  have hbytes := congrArg utf8 h
  rw [utf8_append, utf8_append] at hbytes
  exact utf8_inj (List.append_inj hbytes hsize).1

/-- The base of the entry begins the IRI. -/
def Namespace.Begins (e : Namespace) (iri : String) : Prop := ∃ rest, iri = e.base ++ rest

namespace Namespaces

variable {t : Namespaces} {iri : String} {e d : Namespace} {q : QName}

/-! ## The entry to take -/

/-- **The entry that a table prefers for an IRI.**  Its base is the longest that begins the IRI, and of the labels for
that base it has the least. -/
structure Prefers (t : Namespaces) (iri : String) (e : Namespace) : Prop where
  mem : e ∈ t.entries
  begins : e.Begins iri
  longest : ∀ d ∈ t.entries, d.Begins iri → d.base.utf8ByteSize ≤ e.base.utf8ByteSize
  least : ∀ d ∈ t.entries, d.base = e.base → d ≠ e → Utf8Before e.label d.label

theorem Prefers.unique (he : t.Prefers iri e) (hd : t.Prefers iri d) : e = d := by
  obtain ⟨x, hx⟩ := he.begins
  obtain ⟨y, hy⟩ := hd.begins
  have hsize : e.base.utf8ByteSize = d.base.utf8ByteSize :=
    Nat.le_antisymm (hd.longest e he.mem he.begins) (he.longest d hd.mem hd.begins)
  have hbase : e.base = d.base := append_inj_of_size (hx.symm.trans hy) hsize
  by_cases heq : e = d
  · exact heq
  · exact absurd (he.least d hd.mem hbase.symm (Ne.symm heq)) (hd.least e he.mem hbase heq).asymm

/-! ## Shortening -/

theorem shorten_eq_some_iff : ((List.isPrefixOf? e.base.toList iri.toList).map fun rest =>
    (⟨e.label, String.ofList rest⟩ : QName)) = some q ↔ q.label = e.label ∧ iri = e.base ++ q.name := by
  simp only [Option.map_eq_some_iff, List.isPrefixOf?_eq_some_iff_append_eq]
  constructor
  · rintro ⟨rest, hrest, rfl⟩
    refine ⟨rfl, String.toList_inj.1 ?_⟩
    rw [String.toList_append, String.toList_ofList, hrest]
  · rintro ⟨hlabel, rfl⟩
    refine ⟨q.name.toList, String.toList_append.symm, ?_⟩
    rw [String.ofList_toList, ← hlabel]

theorem qualify?_eq_none_iff : t.qualify? iri = none ↔ ∀ e ∈ t.entries, ¬ e.Begins iri := by
  unfold qualify?
  rw [List.findSome?_eq_none_iff]
  refine forall₂_congr fun e _ => ?_
  rw [Option.eq_none_iff_forall_ne_some]
  constructor
  · rintro h ⟨rest, hrest⟩
    exact h ⟨e.label, rest⟩ (shorten_eq_some_iff.2 ⟨rfl, hrest⟩)
  · intro h q hq
    exact h ⟨q.name, (shorten_eq_some_iff.1 hq).2⟩

/-- The first entry whose base begins the IRI is the preferred one. -/
theorem exists_prefers_of_qualify? (h : t.qualify? iri = some q) :
    ∃ e, t.Prefers iri e ∧ q.label = e.label ∧ iri = e.base ++ q.name := by
  obtain ⟨before, e, after, hentries, hq, hbefore⟩ := List.findSome?_eq_some_iff.1 h
  obtain ⟨hlabel, hiri⟩ := shorten_eq_some_iff.1 hq
  have hordered := t.ordered
  rw [hentries, List.pairwise_append, List.pairwise_cons] at hordered
  have hskipped : ∀ d ∈ before, ¬ d.Begins iri := by
    rintro d hd ⟨rest, hrest⟩
    have hsome := (shorten_eq_some_iff (q := ⟨d.label, rest⟩)).2 ⟨rfl, hrest⟩
    cases (hbefore d hd).symm.trans hsome
  have hother : ∀ d ∈ t.entries, d.Begins iri → d ≠ e → e.Precedes d := by
    intro d hd hbegins hne
    rw [hentries, List.mem_append, List.mem_cons] at hd
    rcases hd with hd | rfl | hd
    · exact absurd hbegins (hskipped d hd)
    · exact absurd rfl hne
    · exact hordered.2.1.1 d hd
  refine ⟨e, ⟨?_, ⟨q.name, hiri⟩, fun d hd hbegins => ?_, fun d hd hbase hne => ?_⟩, hlabel, hiri⟩
  · rw [hentries]
    exact List.mem_append_right _ (List.mem_cons_self ..)
  · by_cases hne : d = e
    · rw [hne]
    · rcases hother d hd hbegins hne with hlt | ⟨hsize, -⟩
      · exact Nat.le_of_lt hlt
      · exact Nat.le_of_eq hsize.symm
  · rcases hother d hd ⟨q.name, hbase ▸ hiri⟩ hne with hlt | ⟨-, hlt⟩
    · rw [hbase] at hlt
      exact absurd hlt (Nat.lt_irrefl _)
    · exact utf8Before_iff.2 hlt

/-- **An IRI is shortened with the preferred entry**, and the name is what follows its base. -/
theorem qualify?_eq_some_iff : t.qualify? iri = some q ↔
    ∃ e, t.Prefers iri e ∧ q.label = e.label ∧ iri = e.base ++ q.name := by
  constructor
  · exact exists_prefers_of_qualify?
  · rintro ⟨e, he, hlabel, hiri⟩
    cases hq : t.qualify? iri with
    | none => exact absurd he.begins (qualify?_eq_none_iff.1 hq e he.mem)
    | some q' =>
      obtain ⟨e', he', hlabel', hiri'⟩ := exists_prefers_of_qualify? hq
      obtain rfl := he.unique he'
      have hname : q'.name = q.name := (String.append_right_inj _).1 (hiri'.symm.trans hiri)
      cases q
      cases q'
      simp_all

/-- **A table is the set of its pairs, and shortens with the longest base.**  A run of insertions into any table, the
empty one and the customary one among them, is accepted just when no label stands with two bases; it gives the table
that has just the pairs that were there and those that were inserted, so another order or repetitions give the same
table, and tables with the same pairs are equal.  An insertion leaves the table as it is just when the pair is there
already; it is refused just when the label is bound to another base; and when the run goes on after refusals, each label
is bound to the base that it had or else to the first that came.  An IRI that no base begins is not shortened, and any
other is shortened with the longest base that begins it and the least label for that base. -/
theorem determined_by_pairs_and_prefers_longest :
    (∀ ps, (∃ t, ofPairs ps = .ok t) ↔ Unambiguous ps) ∧
    (∀ ps ps', (∀ p, p ∈ ps ↔ p ∈ ps') → ∀ t, ofPairs ps = .ok t ↔ ofPairs ps' = .ok t) ∧
    (∀ t : Namespaces, ofPairs t.pairs = .ok t) ∧
    (∀ (t : Namespaces) ps, (∃ t', t.insertAll ps = .ok t') ↔ Unambiguous (t.pairs ++ ps)) ∧
    (∀ (t t' : Namespaces) ps, t.insertAll ps = .ok t' → ∀ p, p ∈ t'.pairs ↔ p ∈ t.pairs ++ ps) ∧
    (∀ (t : Namespaces) ps ps', (∀ p, p ∈ ps ↔ p ∈ ps') → ∀ t', t.insertAll ps = .ok t' ↔ t.insertAll ps' = .ok t') ∧
    (∀ t t' : Namespaces, (∀ p, p ∈ t.pairs ↔ p ∈ t'.pairs) → t = t') ∧
    (∀ (t : Namespaces) label base, t.insert label base = .ok t ↔ (label, base) ∈ t.pairs) ∧
    (∀ (t : Namespaces) label base c, t.insert label base = .error c ↔
      c.label = label ∧ c.base = base ∧ (label, c.existing) ∈ t.pairs ∧ c.existing ≠ base) ∧
    (∀ (t : Namespaces) (ps : List (String × String)) label,
      (ps.foldl insertOrKeep t).base? label = (t.base? label).or (ps.lookup label)) ∧
    (∀ (t : Namespaces) iri, t.qualify? iri = none ↔ ∀ e ∈ t.entries, ¬ e.Begins iri) ∧
    ∀ (t : Namespaces) iri q, t.qualify? iri = some q ↔
      ∃ e, t.Prefers iri e ∧ q.label = e.label ∧ iri = e.base ++ q.name := by
  refine ⟨fun ps => ?_, fun ps ps' h t => insertAll_congr h, ofPairs_pairs, fun t ps => exists_insertAll_iff,
    fun t t' ps => mem_pairs_of_insertAll, fun t ps ps' h t' => insertAll_congr h, fun t t' => ext_pairs,
    fun t label base => insert_eq_ok_self_iff, fun t label base c => insert_eq_error_iff, base?_foldl_insertOrKeep,
    fun t iri => qualify?_eq_none_iff, fun t iri q => qualify?_eq_some_iff⟩
  rw [ofPairs, exists_insertAll_iff, pairs_empty, List.nil_append]

/-! ## Expanding -/

/-- **A qualified name is cut at its first colon**, and what comes before is the label to expand. -/
theorem expand?_eq_some_iff {curie : String} : t.expand? curie = some iri ↔
    ∃ r : QName, ∃ base, curie = r.text ∧ ':' ∉ r.label.toList ∧ t.base? r.label = some base ∧
      iri = base ++ r.name := by
  unfold expand?
  simp only [Option.bind_eq_some_iff, Option.map_eq_some_iff, Prod.exists, cutAt_eq_some_iff]
  constructor
  · rintro ⟨label, name, ⟨hcurie, hcolon⟩, base, hbase, rfl⟩
    refine ⟨⟨String.ofList label, String.ofList name⟩, base, String.toList_inj.1 ?_, ?_, hbase, rfl⟩
    · simp [QName.text, hcurie]
    · rwa [String.toList_ofList]
  · rintro ⟨r, base, rfl, hcolon, hbase, rfl⟩
    refine ⟨r.label.toList, r.name.toList, ⟨by simp [QName.text], hcolon⟩, base, ?_, ?_⟩
    · rwa [String.ofList_toList]
    · rw [String.ofList_toList]

theorem expand?_text {r : QName} (hcolon : ':' ∉ r.label.toList) : t.expand? r.text = some iri ↔
    ∃ base, t.base? r.label = some base ∧ iri = base ++ r.name := by
  have hcut : cutAt ':' r.text.toList = some (r.label.toList, r.name.toList) :=
    cutAt_eq_some_iff.2 ⟨by simp [QName.text], hcolon⟩
  unfold expand?
  rw [hcut, Option.bind_some, Option.map_eq_some_iff, String.ofList_toList, String.ofList_toList]
  exact exists_congr fun base => and_congr_right fun _ => eq_comm

theorem base?_of_prefers (h : t.Prefers iri e) : t.base? e.label = some e.base :=
  base?_eq_some_iff.2 (mem_pairs.2 h.mem)

/-- **A shortened IRI expands to itself.** -/
theorem expand?_text_of_qualify? (hcolon : ∀ e ∈ t.entries, ':' ∉ e.label.toList) (h : t.qualify? iri = some q) :
    t.expand? q.text = some iri := by
  obtain ⟨e, he, hlabel, hiri⟩ := qualify?_eq_some_iff.1 h
  apply (expand?_text (hlabel ▸ hcolon e he.mem)).2
  rw [hlabel]
  exact ⟨e.base, base?_of_prefers he, hiri⟩

/-- The label that an IRI is shortened to has a base at least as long as any that begins the IRI. -/
theorem exists_longest_of_qualify? (h : t.qualify? iri = some q) : ∃ longest, t.base? q.label = some longest ∧
    ∀ e ∈ t.entries, e.Begins iri → e.base.utf8ByteSize ≤ longest.utf8ByteSize := by
  obtain ⟨d, hd, hlabel, -⟩ := qualify?_eq_some_iff.1 h
  rw [hlabel]
  exact ⟨d.base, base?_of_prefers hd, hd.longest⟩

/-- **Expanding undoes shortening.**  If no label has a colon in it, a shortened IRI expands to itself; and what a label
and a name expand to is shortened again, with a base at least as long as the label's, to a name that expands to the same
IRI. -/
theorem expand?_inverse (hcolon : ∀ e ∈ t.entries, ':' ∉ e.label.toList) :
    (∀ iri q, t.qualify? iri = some q → t.expand? q.text = some iri) ∧
    ∀ (r : QName) iri, t.expand? r.text = some iri → ∃ q longest, t.qualify? iri = some q ∧
      t.base? q.label = some longest ∧ t.expand? q.text = some iri ∧
      (':' ∉ r.label.toList → ∃ base, t.base? r.label = some base ∧ iri = base ++ r.name ∧
        base.utf8ByteSize ≤ longest.utf8ByteSize) := by
  refine ⟨fun iri q => expand?_text_of_qualify? hcolon, fun r iri h => ?_⟩
  have hbegins : ∀ {label base : String} {name : String}, t.base? label = some base → iri = base ++ name →
      ∃ e ∈ t.entries, e.base = base ∧ e.Begins iri := fun hbase hiri =>
    ⟨_, mem_pairs.1 (base?_eq_some_iff.1 hbase), rfl, _, hiri⟩
  cases hq : t.qualify? iri with
  | none =>
    obtain ⟨r', base, -, -, hbase, hiri⟩ := expand?_eq_some_iff.1 h
    obtain ⟨e, he, -, hiri⟩ := hbegins hbase hiri
    exact absurd hiri (qualify?_eq_none_iff.1 hq e he)
  | some q =>
    obtain ⟨longest, hlongest, hall⟩ := exists_longest_of_qualify? hq
    refine ⟨q, longest, rfl, hlongest, expand?_text_of_qualify? hcolon hq, fun hr => ?_⟩
    obtain ⟨base, hbase, hiri⟩ := (expand?_text hr).1 h
    obtain ⟨e, he, rfl, hiri'⟩ := hbegins hbase hiri
    exact ⟨e.base, hbase, hiri, hall e he hiri'⟩

/-- Two labels, where the base of one begins the base of the other. -/
def overlapping : Namespaces where
  entries := [⟨"terms", "http://example.org/terms/"⟩, ⟨"ex", "http://example.org/"⟩]
  ordered := by decide
  labels_nodup := by decide

/-- The name that is found is not the one that was expanded, and it has a colon itself. -/
theorem expand?_inverse_overlapping : (∀ e ∈ overlapping.entries, ':' ∉ e.label.toList) ∧
    overlapping.qualify? "http://example.org/terms/a:b" = some ⟨"terms", "a:b"⟩ ∧
    overlapping.expand? (QName.text ⟨"terms", "a:b"⟩) = some "http://example.org/terms/a:b" ∧
    overlapping.expand? (QName.text ⟨"ex", "terms/a:b"⟩) = some "http://example.org/terms/a:b" ∧
    ∃ q longest, overlapping.qualify? "http://example.org/terms/a:b" = some q ∧
      overlapping.base? q.label = some longest ∧ overlapping.expand? q.text = some "http://example.org/terms/a:b" ∧
      (':' ∉ "ex".toList → ∃ base, overlapping.base? "ex" = some base ∧
        "http://example.org/terms/a:b" = base ++ "terms/a:b" ∧ base.utf8ByteSize ≤ longest.utf8ByteSize) := by
  have hcolon : ∀ e ∈ overlapping.entries, ':' ∉ e.label.toList := by decide
  have hqualify : overlapping.qualify? "http://example.org/terms/a:b" = some ⟨"terms", "a:b"⟩ := by decide
  have hexpand : overlapping.expand? (QName.text ⟨"ex", "terms/a:b"⟩) = some "http://example.org/terms/a:b" := by decide
  obtain ⟨hback, hforth⟩ := expand?_inverse hcolon
  exact ⟨hcolon, hqualify, hback _ _ hqualify, hexpand, hforth ⟨"ex", "terms/a:b"⟩ _ hexpand⟩

end Namespaces
end ShapeBinding
