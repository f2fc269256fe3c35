import ShapeBinding.Term
/-!
# The text of a term tells the term

The text of a term can be read: its first characters say what kind of term it is, an IRI ends with the text, and the
lexical form of a literal ends at the first quote that is not escaped.  `readQuoted` undoes the escapes up to that quote
and stops there, whatever follows (`readQuoted_eq_some_iff`).  A language hides the datatype, so what is read has the
datatype that goes with a language (`Term.WellTagged`); such terms are just what is read from their texts
(`Term.read?_eq_some_iff`), and no two of them have the same text (`Term.text_unambiguous`).
-/
namespace ShapeBinding

/-! ## Quoted text -/

/-- The character that a letter stands for behind a backslash. -/
def unescapeChar? : Char → Option Char
  | '"' => some '"'
  | '\\' => some '\\'
  | 'n' => some '\n'
  | 'r' => some '\r'
  | _ => none

/-- Reads a lexical form up to the closing quote, and what stands behind that quote.  No line break stands before it. -/
def readQuoted : List Char → Option (List Char × List Char)
  | [] => none
  | '"' :: rest => some ([], rest)
  | '\\' :: letter :: s => (unescapeChar? letter).bind fun c => (readQuoted s).map fun p => (c :: p.1, p.2)
  | c :: s => if c = '\\' ∨ c = '\n' ∨ c = '\r' then none else (readQuoted s).map fun p => (c :: p.1, p.2)

theorem escapeChar_of_plain {c : Char} (hquote : c ≠ '"') (hbackslash : c ≠ '\\') (hfeed : c ≠ '\n')
    (hreturn : c ≠ '\r') : escapeChar c = [c] := by
  simp only [escapeChar, hquote, hbackslash, hfeed, hreturn, if_false]

/-- What is escaped is one character again. -/
theorem readQuoted_escapeChar_append (c : Char) (s : List Char) :
    readQuoted (escapeChar c ++ s) = (readQuoted s).map fun p => (c :: p.1, p.2) := by
  by_cases hquote : c = '"'
  · subst hquote
    rfl
  by_cases hbackslash : c = '\\'
  · subst hbackslash
    rfl
  by_cases hfeed : c = '\n'
  · subst hfeed
    rfl
  by_cases hreturn : c = '\r'
  · subst hreturn
    rfl
  rw [escapeChar_of_plain hquote hbackslash hfeed hreturn, List.singleton_append, readQuoted, if_neg]
  · simp only [hbackslash, hfeed, hreturn, or_self, not_false_eq_true]
  · exact hquote
  · exact fun _ _ h => absurd h hbackslash

theorem readQuoted_escape_append (s rest : List Char) : readQuoted (escape s ++ '"' :: rest) = some (s, rest) := by
  induction s with
  | nil => rfl
  | cons c s ih =>
    rw [escape_cons, List.append_assoc, readQuoted_escapeChar_append, ih]
    rfl

theorem escapeChar_of_unescapeChar? {letter c : Char} (h : unescapeChar? letter = some c) :
    escapeChar c = ['\\', letter] := by
  unfold unescapeChar? at h
  split at h <;> cases h <;> rfl

/-- **Reading undoes the escapes up to the closing quote**: just what was escaped and closed by a quote is read,
whatever stands behind. -/
theorem readQuoted_eq_some_iff {s lexical rest : List Char} :
    readQuoted s = some (lexical, rest) ↔ s = escape lexical ++ '"' :: rest := by
  constructor
  · intro h
    fun_induction readQuoted s generalizing lexical rest with
    | case1 => cases h
    | case2 rest =>
      cases h
      rfl
    | case3 letter s ih =>
      obtain ⟨c, hc, h⟩ := Option.bind_eq_some_iff.1 h
      obtain ⟨⟨lexical, rest⟩, hrest, heq⟩ := Option.map_eq_some_iff.1 h
      cases heq
      rw [escape_cons, escapeChar_of_unescapeChar? hc, ih hrest]
      rfl
    | case4 => cases h
    | case5 c s hquote _ hplain ih =>
      obtain ⟨⟨lexical, rest⟩, hrest, heq⟩ := Option.map_eq_some_iff.1 h
      cases heq
      simp only [not_or] at hplain
      rw [escape_cons, escapeChar_of_plain hquote hplain.1 hplain.2.1 hplain.2.2, ih hrest]
      rfl
  · rintro rfl
    exact readQuoted_escape_append lexical rest

/-! ## Terms -/

/-- Reads up to an angle bracket that ends the text. -/
def readBracketed? (s : List Char) : Option String :=
  if s.getLast? = some '>' then some (String.ofList s.dropLast) else none

theorem readBracketed?_eq_some_iff {s : List Char} {iri : String} :
    readBracketed? s = some iri ↔ s = iri.toList ++ ['>'] := by
  unfold readBracketed?
  constructor
  · intro h
    split at h
    · rename_i hlast
      obtain ⟨chars, rfl⟩ := List.getLast?_eq_some_iff.1 hlast
      cases h
      rw [String.toList_ofList, List.dropLast_concat]
    · cases h
  · rintro rfl
    rw [if_pos List.getLast?_concat, List.dropLast_concat, String.ofList_toList]

namespace Literal

/-- Reads the datatype and the language of a literal behind its closing quote. -/
def readSuffix? : List Char → Option (String × Option String)
  | [] => some (Xsd.string, none)
  | '@' :: tag => some (Rdf.langString, some (String.ofList tag))
  | '^' :: '^' :: '<' :: s =>
    (readBracketed? s).bind fun datatype => if datatype = Xsd.string then none else some (datatype, none)
  | _ => none

/-- **A literal in a language has the datatype that goes with languages.** -/
def WellTagged (l : Literal) : Prop := ∀ tag, l.language = some tag → l.datatype = Rdf.langString

theorem readSuffix?_eq_some_iff {s : List Char} {l : Literal} :
    readSuffix? s = some (l.datatype, l.language) ↔ l.WellTagged ∧ s = l.suffix.toList := by
  obtain ⟨lexical, datatype, language⟩ := l
  constructor
  · intro h
    unfold readSuffix? at h
    split at h
    · cases h
      exact ⟨nofun, rfl⟩
    · cases h
      refine ⟨fun _ _ => rfl, ?_⟩
      simp [suffix]
    · obtain ⟨iri, hiri, h⟩ := Option.bind_eq_some_iff.1 h
      rw [readBracketed?_eq_some_iff] at hiri
      split at h
      · cases h
      · rename_i hne
        cases h
        refine ⟨nofun, ?_⟩
        simp [suffix, hne, hiri]
    · cases h
  · rintro ⟨htagged, rfl⟩
    cases language with
    | some tag =>
      obtain rfl := htagged tag rfl
      simp [suffix, readSuffix?]
    | none =>
      by_cases hstring : datatype = Xsd.string
      · subst hstring
        rfl
      · have hsuffix : (suffix ⟨lexical, datatype, none⟩).toList = '^' :: '^' :: '<' :: (datatype.toList ++ ['>']) := by
          simp [suffix, hstring]
        rw [hsuffix, readSuffix?, readBracketed?_eq_some_iff.2 rfl, Option.bind_some, if_neg hstring]

theorem text_toList (l : Literal) :
    l.text.toList = '"' :: (escape l.lexical.toList ++ '"' :: l.suffix.toList) := by
  simp [text]

end Literal

namespace Term

/-- **A literal with a language has the datatype of language-tagged texts.** -/
def WellTagged (t : Term) : Prop := ∀ l, t = .literal l → l.WellTagged

/-- Reads the text of a term. -/
def read? : List Char → Option Term
  | '<' :: s => (readBracketed? s).map .iri
  | '_' :: ':' :: label => some (.blank (String.ofList label))
  | '"' :: s =>
    (readQuoted s).bind fun p => (Literal.readSuffix? p.2).map fun q => .literal ⟨String.ofList p.1, q.1, q.2⟩
  | _ => none

/-- **Just the well-tagged terms are read, each from its text.** -/
theorem read?_eq_some_iff {s : List Char} {t : Term} : read? s = some t ↔ t.WellTagged ∧ s = t.text.toList := by
  constructor
  · intro h
    unfold read? at h
    -- an IRI, a blank node, a literal, and what is none of them
    split at h
    · obtain ⟨iri, hiri, rfl⟩ := Option.map_eq_some_iff.1 h
      rw [readBracketed?_eq_some_iff.1 hiri]
      exact ⟨nofun, by simp [text]⟩
    · cases h
      exact ⟨nofun, by simp [text]⟩
    · obtain ⟨⟨lexical, rest⟩, hlexical, h⟩ := Option.bind_eq_some_iff.1 h
      obtain ⟨⟨datatype, language⟩, hsuffix, rfl⟩ := Option.map_eq_some_iff.1 h
      obtain ⟨htagged, rfl⟩ :=
        Literal.readSuffix?_eq_some_iff (l := ⟨String.ofList lexical, datatype, language⟩).1 hsuffix
      rw [readQuoted_eq_some_iff.1 hlexical]
      refine ⟨?_, ?_⟩
      · rintro l ⟨⟩
        exact htagged
      · rw [text, Literal.text_toList, String.toList_ofList]
    · cases h
  · rintro ⟨htagged, rfl⟩
    cases t with
    | iri i =>
      have htext : (text (.iri i)).toList = '<' :: (i.toList ++ ['>']) := by simp [text]
      rw [htext, read?, readBracketed?_eq_some_iff.2 rfl]
      rfl
    | blank label =>
      have htext : (text (.blank label)).toList = '_' :: ':' :: label.toList := by simp [text]
      rw [htext, read?, String.ofList_toList]
    | literal l =>
      have hsuffix := Literal.readSuffix?_eq_some_iff.2 ⟨htagged l rfl, rfl⟩
      rw [text, Literal.text_toList, read?, readQuoted_escape_append]
      simp only [Option.bind_some, hsuffix, Option.map_some, String.ofList_toList]

variable {t u : Term}

/-- **The text of a term tells the term.** Of two well-tagged terms with the same text there is one only, and reading
finds it: just the well-tagged terms are read, each from its text.  One reader undoes all escapes, and it finds the
closing quote of a literal: however a literal's text is taken apart into what was escaped, a quote and a rest, these are
the literal's lexical form and what follows it. -/
theorem text_unambiguous (ht : t.WellTagged) (hu : u.WellTagged) :
    (t.text = u.text ↔ t = u) ∧
      (∀ (s : String) (v : Term), read? s.toList = some v ↔ v.WellTagged ∧ s = v.text) ∧
      (∀ s lexical rest, readQuoted s = some (lexical, rest) ↔ s = escape lexical ++ '"' :: rest) ∧
      ∀ (l : Literal) lexical rest, l.text.toList = '"' :: (escape lexical ++ '"' :: rest) ↔
        lexical = l.lexical.toList ∧ rest = l.suffix.toList := by
  refine ⟨⟨fun h => ?_, fun h => h ▸ rfl⟩, fun s v => ?_, fun _ _ _ => readQuoted_eq_some_iff,
    fun l lexical rest => ?_⟩
  · have ht := read?_eq_some_iff.2 ⟨ht, rfl⟩
    have hu := read?_eq_some_iff.2 ⟨hu, rfl⟩
    rw [h] at ht
    exact Option.some.inj (ht.symm.trans hu)
  · rw [read?_eq_some_iff, String.toList_inj]
  · rw [Literal.text_toList, List.cons_inj_right, ← readQuoted_eq_some_iff, readQuoted_escape_append,
      Option.some.injEq, Prod.mk.injEq, eq_comm, eq_comm (a := l.suffix.toList)]

/-- A quoted word in front of a language is no word in a language: the quote before the language is not the one that
closes the lexical form. -/
theorem text_unambiguous_quoted : (string "chat\"@fr").WellTagged ∧ (langString "chat" "fr").WellTagged ∧
    (string "chat\"@fr").text = "\"chat\\\"@fr\"" ∧ (langString "chat" "fr").text = "\"chat\"@fr" ∧
    (string "chat\"@fr").text ≠ (langString "chat" "fr").text ∧
    read? "\"chat\\\"@fr\"".toList = some (string "chat\"@fr") := by
  have hstring : (string "chat\"@fr").WellTagged := by
    rintro l ⟨⟩
    nofun
  have htagged : (langString "chat" "fr").WellTagged := by
    rintro l ⟨⟩ tag -
    rfl
  obtain ⟨heq, hread, -, -⟩ := text_unambiguous hstring htagged
  exact ⟨hstring, htagged, by decide, by decide, fun h => absurd (heq.1 h) (by decide),
    (hread _ _).2 ⟨hstring, by decide⟩⟩

-- a language hides a datatype that does not go with it
example : text (.literal ⟨"chat", Xsd.string, some "fr"⟩) = text (langString "chat" "fr") := by decide

end Term

end ShapeBinding
