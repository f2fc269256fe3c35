import Mathlib.Data.List.Forall2
import ShapeBinding.Schema.Fingerprint
/-!
# What a frame stands for

A text is found again behind its length (`framed_append_inj`), but a frame says neither how many constraints a property
has nor how many properties follow, and a constraint begins just as the next property does, with two texts.  What comes
then tells them apart: after its name and its path a property goes on with its label and the byte zero that marks a
datatype, and reading that as a text would need one that begins with a zero (`zero_framed_ne`).  So if paths are not empty
and hold no NUL, and strings are short, two rows of properties with the same frame have the same content
(`sameContent_of_frames`).
-/
namespace ShapeBinding

/-! ## Numbers and texts -/

theorem littleEndian_succ (count n : Nat) :
    littleEndian (count + 1) n = UInt8.ofNat n :: littleEndian count (n / 256) := by
  have hdiv : ∀ i, n / 256 ^ (i + 1) = n / 256 / 256 ^ i := fun i => by rw [Nat.pow_succ', Nat.div_div_eq_div_mul]
  rw [littleEndian, List.range_succ_eq_map, List.map_cons, List.map_map, Nat.pow_zero, Nat.div_one]
  refine congrArg _ (List.map_congr_left fun i _ => ?_)
  rw [Function.comp_apply, Nat.succ_eq_add_one, hdiv]

@[simp] theorem length_littleEndian (count n : Nat) : (littleEndian count n).length = count := by
  simp [littleEndian]

/-- **As many bytes as a number needs determine the number.** -/
theorem littleEndian_inj : ∀ {count m n : Nat}, m < 256 ^ count → n < 256 ^ count →
    littleEndian count m = littleEndian count n → m = n
  | 0, m, n, hm, hn, _ => by omega
  | count + 1, m, n, hm, hn, h => by
    rw [Nat.pow_succ] at hm hn
    rw [littleEndian_succ, littleEndian_succ, List.cons.injEq] at h
    have hbyte : m % 256 = n % 256 := by simpa using congrArg UInt8.toNat h.1
    have hrest : m / 256 = n / 256 := littleEndian_inj (by omega) (by omega) h.2
    omega

theorem length_utf8 (s : String) : (utf8 s).length = s.utf8ByteSize := rfl

theorem utf8_inj {s t : String} (h : utf8 s = utf8 t) : s = t :=
  String.toByteArray_inj.1 (ByteArray.ext (Array.toList_inj.1 h))

theorem utf8_ofList (l : List Char) : utf8 (String.ofList l) = l.flatMap String.utf8EncodeChar := by
  rw [utf8, String.toUTF8, String.toByteArray_ofList, List.utf8Encode]
  simp

/-- The length of the text fits in the eight bytes that are there for it. -/
def Fits (s : String) : Prop := s.utf8ByteSize < 2 ^ 64

theorem fits_of_lt {s : String} (h : s.utf8ByteSize < 2 ^ 56) : Fits s := Nat.lt_trans h (by decide)

theorem framed_append_ne_nil (s : String) (x : List UInt8) : framed s ++ x ≠ [] := by
  intro h
  have := congrArg List.length h
  simp [framed] at this

/-- **A text after its length is found again**, whatever follows. -/
theorem framed_append_inj {s t : String} {x y : List UInt8} (hs : Fits s) (ht : Fits t)
    (h : framed s ++ x = framed t ++ y) : s = t ∧ x = y := by
  unfold framed at h
  rw [List.append_assoc, List.append_assoc] at h
  obtain ⟨hlength, h⟩ := List.append_inj h (by rw [length_littleEndian, length_littleEndian])
  obtain ⟨htext, hrest⟩ := List.append_inj h (littleEndian_inj hs ht hlength)
  exact ⟨utf8_inj htext, hrest⟩

theorem framedCount_append_inj {m n : Option UInt32} {x y : List UInt8}
    (h : framedCount m ++ x = framedCount n ++ y) : m = n ∧ x = y := by
  cases m with
  | none =>
    cases n with
    | none => exact ⟨rfl, (List.cons.inj h).2⟩
    | some n => exact absurd (List.cons.inj h).1 (by decide)
  | some m =>
    cases n with
    | none => exact absurd (List.cons.inj h).1 (by decide)
    | some n =>
      obtain ⟨hbytes, hrest⟩ := List.append_inj (List.cons.inj h).2 (by simp)
      exact ⟨congrArg some (UInt32.toNat_inj.1 (littleEndian_inj m.toNat_lt n.toNat_lt hbytes)), hrest⟩

theorem length_fingerprintOf (bytes : List UInt8) : (fingerprintOf bytes).length = 16 := by
  simp [fingerprintOf, sha256, Sha256.State.words, Sha256.bigEndian]

/-! ## What no datatype's frame looks like -/

/-- The text is not empty, and its first byte is not zero. -/
def BeginsNonzero (s : String) : Prop := ∃ b bs, utf8 s = b :: bs ∧ b ≠ 0

theorem ofNat_ne_zero {n : Nat} (hpos : 0 < n) (hlt : n < 256) : UInt8.ofNat n ≠ 0 := by
  intro h
  have := congrArg UInt8.toNat h
  rw [UInt8.toNat_ofNat', Nat.mod_eq_of_lt hlt] at this
  exact Nat.ne_of_gt hpos this

theorem exists_utf8EncodeChar {c : Char} (hc : c ≠ '\x00') : ∃ b bs, String.utf8EncodeChar c = b :: bs ∧ b ≠ 0 := by
  have hpos : 0 < c.val.toNat := Nat.pos_of_ne_zero fun hzero => hc (Char.ext (UInt32.toNat_inj.1 hzero))
  unfold String.utf8EncodeChar
  dsimp only
  split
  · exact ⟨_, _, rfl, ofNat_ne_zero hpos (by omega)⟩
  split
  · exact ⟨_, _, rfl, ofNat_ne_zero (by omega) (by omega)⟩
  split
  · exact ⟨_, _, rfl, ofNat_ne_zero (by omega) (by omega)⟩
  · exact ⟨_, _, rfl, ofNat_ne_zero (by omega) (by omega)⟩

theorem beginsNonzero_of_toList {s : String} {c : Char} {cs : List Char} (hs : s.toList = c :: cs)
    (hc : c ≠ '\x00') : BeginsNonzero s := by
  obtain ⟨b, bs, hbytes, hb⟩ := exists_utf8EncodeChar hc
  refine ⟨b, bs ++ cs.flatMap String.utf8EncodeChar, ?_, hb⟩
  rw [← String.ofList_toList (s := s), hs, utf8_ofList, List.flatMap_cons, hbytes, List.cons_append]

theorem beginsNonzero_of_notMem {s : String} (hne : s ≠ "") (h : '\x00' ∉ s.toList) : BeginsNonzero s := by
  cases hs : s.toList with
  | nil => exact absurd (String.toList_eq_nil_iff.1 hs) hne
  | cons c cs =>
    refine beginsNonzero_of_toList hs fun hzero => h ?_
    rw [hs, hzero]
    exact List.mem_cons_self ..

theorem beginsNonzero_text (t : Term) : BeginsNonzero t.text := by
  cases t with
  | iri i =>
    have h : ("<" ++ i ++ ">").toList = '<' :: (i.toList ++ ['>']) := by simp
    exact beginsNonzero_of_toList h (by decide)
  | blank label =>
    have h : ("_:" ++ label).toList = '_' :: ':' :: label.toList := by simp
    exact beginsNonzero_of_toList h (by decide)
  | literal l =>
    have h : l.text.toList = '"' :: (escape l.lexical.toList ++ '"' :: l.suffix.toList) := by simp [Literal.text]
    exact beginsNonzero_of_toList h (by decide)

/-- **A datatype and a text are told apart.**  The byte that marks a datatype and the eight of its length are one more
than stand before a text, so that the last byte of the length, a zero, is where the text would begin. -/
theorem zero_framed_ne {s t : String} {x y : List UInt8} (hs : s.utf8ByteSize < 2 ^ 56) (ht : BeginsNonzero t) :
    0 :: (framed s ++ x) ≠ framed t ++ y := by
  intro h
  obtain ⟨b, bs, hbytes, hb⟩ := ht
  have hzero : (0 :: (framed s ++ x))[8]? = some 0 := by
    have hlast : (littleEndian 8 s.utf8ByteSize)[7]? = some 0 := by
      simp [littleEndian, Nat.div_eq_of_lt hs]
    rw [List.getElem?_cons_succ, framed, List.append_assoc, List.getElem?_append_left (by simp), length_utf8, hlast]
  have hfirst : (framed t ++ y)[8]? = some b := by
    rw [framed, List.append_assoc, List.getElem?_append_right (by simp), length_littleEndian, hbytes]
    rfl
  rw [h, hfirst] at hzero
  exact hb (Option.some.inj hzero)

/-! ## What a schema's frame holds -/

def constraintTexts (cs : List (Term × Term)) : List (String × String) := cs.map fun c => (c.1.text, c.2.text)

/-- **Two properties of one content**, as far as frames go: their names, paths and path labels, their datatypes, their
counts and the texts of their constraints. -/
structure Property.SameContent (p q : Property Schema) : Prop where
  name_eq : p.name = q.name
  path_eq : p.path = q.path
  pathLabel_eq : p.pathLabel = q.pathLabel
  datatype_eq : p.datatype? = q.datatype?
  maxCount_eq : p.maxCount = q.maxCount
  constraints_eq : constraintTexts p.constraints = constraintTexts q.constraints

/-- **Two schemas of one content**: the same header, and as many properties, each of the same content as the other's. -/
structure Schema.SameContent (s t : Schema) : Prop where
  name_eq : s.name = t.name
  targetType_eq : s.targetType = t.targetType
  targetLabel_eq : s.targetLabel = t.targetLabel
  shape_eq : s.shape.text = t.shape.text
  properties_eq : List.Forall₂ Property.SameContent s.properties t.properties

/-! ## What is needed to read it -/

def ConstraintsFit (cs : List (Term × Term)) : Prop := ∀ c ∈ cs, Fits c.1.text ∧ Fits c.2.text

/-- **What it takes to read a property's frame**: its texts fit, its path begins with a byte other than zero, and it is of
a datatype, the length of which ends in a zero. -/
structure Property.Legible (p : Property Schema) : Prop where
  name_fits : Fits p.name
  path_fits : Fits p.path
  path_begins : BeginsNonzero p.path
  label_fits : Fits p.pathLabel
  datatype : ∃ iri, p.kind = .datatype iri ∧ iri.utf8ByteSize < 2 ^ 56
  constraints_fit : ConstraintsFit p.constraints

variable {p q : Property Schema} {ps qs : List (Property Schema)} {cs ds : List (Term × Term)} {c : Term × Term}

/-- The frame of a property, field by field. -/
theorem frameProperty_eq (p : Property Schema) : Schema.frameProperty p =
    framed p.name ++ (framed p.path ++ (framed p.pathLabel ++ (Schema.frameKind p.kind ++
      (framedCount p.maxCount ++ framedConstraints p.constraints)))) := by
  obtain ⟨name, path, kind, max, constraints, qpath, qdatatype⟩ := p
  simp only [Schema.frameProperty, Property.pathLabel, List.append_assoc]

theorem frameProperty_of_datatype {iri : String} (h : p.kind = .datatype iri) : Schema.frameProperty p =
    framed p.name ++ (framed p.path ++ (framed p.pathLabel ++ (0 :: (framed iri ++
      (framedCount p.maxCount ++ framedConstraints p.constraints))))) := by
  rw [frameProperty_eq, h, Schema.frameKind, List.cons_append]

@[simp] theorem framedConstraints_nil : framedConstraints [] = [] := rfl

theorem framedConstraints_cons : framedConstraints (c :: cs) =
    framed c.1.text ++ (framed c.2.text ++ framedConstraints cs) := by
  rw [framedConstraints, List.flatMap_cons, List.append_assoc]
  rfl

/-- Constraints and properties that follow are nothing at all, or begin with two texts of which the second can be told
from a datatype. -/
theorem exists_framed_of_rest (hps : ∀ p ∈ ps, p.Legible) (hcs : ConstraintsFit cs) :
    framedConstraints cs ++ Schema.frameProperties ps = [] ∨ ∃ s t rest, Fits s ∧ BeginsNonzero t ∧
      framedConstraints cs ++ Schema.frameProperties ps = framed s ++ (framed t ++ rest) := by
  cases cs with
  | cons c cs =>
    refine .inr ⟨_, _, framedConstraints cs ++ Schema.frameProperties ps, (hcs c (List.mem_cons_self ..)).1,
      beginsNonzero_text c.2, ?_⟩
    rw [framedConstraints_cons, List.append_assoc, List.append_assoc]
  | nil =>
    cases ps with
    | nil => exact .inl rfl
    | cons p ps =>
      obtain ⟨hname, -, hpath, -, ⟨iri, hkind, -⟩, -⟩ := hps p (List.mem_cons_self ..)
      refine .inr ⟨p.name, p.path, framed p.pathLabel ++ (0 :: (framed iri ++ (framedCount p.maxCount ++
        framedConstraints p.constraints))) ++ Schema.frameProperties ps, hname, hpath, ?_⟩
      rw [framedConstraints_nil, List.nil_append, Schema.frameProperties, frameProperty_of_datatype hkind,
        List.append_assoc, List.append_assoc]

/-- **Constraints are told from a property.**  A property goes on, after its name and its path, with a label and the mark
of a datatype, where constraints go on with a text. -/
theorem framedConstraints_ne_frameProperties (hps : ∀ p ∈ ps, p.Legible) (hcs : ConstraintsFit (c :: cs))
    (hq : q.Legible) : framedConstraints (c :: cs) ++ Schema.frameProperties ps ≠ Schema.frameProperties (q :: qs) := by
  intro h
  obtain ⟨hname, hpath, -, hlabel, ⟨iri, hkind, hsize⟩, -⟩ := hq
  obtain ⟨hc, hcs⟩ := List.forall_mem_cons.1 hcs
  rw [framedConstraints_cons, Schema.frameProperties, frameProperty_of_datatype hkind] at h
  simp only [List.append_assoc, List.cons_append] at h
  obtain ⟨-, h⟩ := framed_append_inj hc.1 hname h
  obtain ⟨-, h⟩ := framed_append_inj hc.2 hpath h
  rcases exists_framed_of_rest hps hcs with hnil | ⟨s, t, rest, hs, ht, hrest⟩
  · rw [hnil] at h
    exact framed_append_ne_nil _ _ h.symm
  · rw [hrest] at h
    exact zero_framed_ne hsize ht (framed_append_inj hs hlabel h).2.symm

theorem frameProperties_cons_ne_nil (hp : p.Legible) : Schema.frameProperties (p :: ps) ≠ [] := by
  obtain ⟨-, -, -, -, ⟨iri, hkind, -⟩, -⟩ := hp
  intro h
  rw [Schema.frameProperties, frameProperty_of_datatype hkind, List.append_assoc] at h
  exact framed_append_ne_nil _ _ h

/-- **Properties and the constraints before them are found again.**  By the two rows of properties, and for one property
by its constraints; where one row goes on with a constraint, so does the other. -/
theorem sameContent_of_frames : ∀ {ps qs : List (Property Schema)} {cs ds : List (Term × Term)},
    (∀ p ∈ ps, p.Legible) → (∀ q ∈ qs, q.Legible) → ConstraintsFit cs → ConstraintsFit ds →
    framedConstraints cs ++ Schema.frameProperties ps = framedConstraints ds ++ Schema.frameProperties qs →
    constraintTexts cs = constraintTexts ds ∧ List.Forall₂ Property.SameContent ps qs
  | ps, qs, c :: cs, d :: ds, hps, hqs, hcs, hds, h => by
    rw [framedConstraints_cons, framedConstraints_cons, List.append_assoc, List.append_assoc, List.append_assoc,
      List.append_assoc] at h
    obtain ⟨hc, hcs⟩ := List.forall_mem_cons.1 hcs
    obtain ⟨hd, hds⟩ := List.forall_mem_cons.1 hds
    obtain ⟨hpredicate, h⟩ := framed_append_inj hc.1 hd.1 h
    obtain ⟨hobject, h⟩ := framed_append_inj hc.2 hd.2 h
    obtain ⟨htexts, hrest⟩ := sameContent_of_frames hps hqs hcs hds h
    exact ⟨congrArg₂ List.cons (Prod.ext hpredicate hobject) htexts, hrest⟩
  | ps, q :: qs, c :: cs, [], hps, hqs, hcs, _, h =>
    absurd h (framedConstraints_ne_frameProperties hps hcs (hqs q (List.mem_cons_self ..)))
  | p :: ps, qs, [], d :: ds, hps, hqs, _, hds, h =>
    absurd h.symm (framedConstraints_ne_frameProperties hqs hds (hps p (List.mem_cons_self ..)))
  | ps, [], c :: cs, [], _, _, _, _, h => by
    rw [framedConstraints_cons, List.append_assoc] at h
    exact absurd h (framed_append_ne_nil _ _)
  | [], qs, [], d :: ds, _, _, _, _, h => by
    rw [framedConstraints_cons, List.append_assoc] at h
    exact absurd h.symm (framed_append_ne_nil _ _)
  | [], [], [], [], _, _, _, _, _ => ⟨rfl, .nil⟩
  | p :: ps, [], [], [], hps, _, _, _, h => absurd h (frameProperties_cons_ne_nil (hps p (List.mem_cons_self ..)))
  | [], q :: qs, [], [], _, hqs, _, _, h =>
    absurd h.symm (frameProperties_cons_ne_nil (hqs q (List.mem_cons_self ..)))
  | p :: ps, q :: qs, [], [], hps, hqs, _, _, h => by
    rw [List.forall_mem_cons] at hps hqs
    obtain ⟨⟨hname, hpath, -, hlabel, ⟨iri, hkind, hsize⟩, hcs⟩, hps⟩ := hps
    obtain ⟨⟨hname', hpath', -, hlabel', ⟨iri', hkind', hsize'⟩, hds⟩, hqs⟩ := hqs
    rw [framedConstraints, List.flatMap_nil, List.nil_append, List.nil_append, Schema.frameProperties,
      Schema.frameProperties, frameProperty_of_datatype hkind, frameProperty_of_datatype hkind'] at h
    simp only [List.append_assoc, List.cons_append] at h
    obtain ⟨hnames, h⟩ := framed_append_inj hname hname' h
    obtain ⟨hpaths, h⟩ := framed_append_inj hpath hpath' h
    obtain ⟨hlabels, h⟩ := framed_append_inj hlabel hlabel' h
    obtain ⟨hiris, h⟩ := framed_append_inj (fits_of_lt hsize) (fits_of_lt hsize') (List.cons.inj h).2
    obtain ⟨hcounts, h⟩ := framedCount_append_inj h
    obtain ⟨htexts, hrest⟩ := sameContent_of_frames hps hqs hcs hds h
    refine ⟨rfl, .cons ⟨hnames, hpaths, hlabels, ?_, hcounts, htexts⟩ hrest⟩
    rw [Property.datatype?, Property.datatype?, hkind, hkind', hiris]
termination_by ps _ cs => (ps.length, cs.length)

theorem frameProperty_congr (hp : ∃ iri, p.kind = .datatype iri) (h : p.SameContent q) :
    Schema.frameProperty p = Schema.frameProperty q := by
  obtain ⟨iri, hkind⟩ := hp
  have hkind' : q.kind = .datatype iri := by
    have hq := h.datatype_eq
    rw [Property.datatype?, hkind, Property.datatype?] at hq
    cases hk : q.kind with
    | datatype iri' =>
      rw [hk] at hq
      rw [Option.some.inj hq]
    | nested t =>
      rw [hk] at hq
      cases hq
  have hconstraints : ∀ cs, framedConstraints cs = (constraintTexts cs).flatMap fun c => framed c.1 ++ framed c.2 :=
    fun cs => by rw [framedConstraints, constraintTexts, List.flatMap_map]
  rw [frameProperty_of_datatype hkind, frameProperty_of_datatype hkind', h.name_eq, h.path_eq, h.pathLabel_eq,
    h.maxCount_eq, hconstraints, hconstraints, h.constraints_eq]

theorem frameProperties_congr : ∀ {ps qs : List (Property Schema)}, (∀ p ∈ ps, ∃ iri, p.kind = .datatype iri) →
    List.Forall₂ Property.SameContent ps qs → Schema.frameProperties ps = Schema.frameProperties qs
  | [], _, _, .nil => rfl
  | p :: ps, _, hps, .cons hpq hrest => by
    rw [List.forall_mem_cons] at hps
    rw [Schema.frameProperties, Schema.frameProperties, frameProperty_congr hps.1 hpq,
      frameProperties_congr hps.2 hrest]

theorem Schema.frame_eq (s : Schema) : s.frame = framed s.name ++ (framed s.targetType ++ (framed s.targetLabel ++
    (framed s.shape.text ++ Schema.frameProperties s.properties))) := by
  obtain ⟨name, target, qualified, shape, ps⟩ := s
  simp only [Schema.frame, Schema.targetLabel, List.append_assoc]

/-! ## Schemas of short strings -/

def QName.strings (q : QName) : List String := [q.label, q.name]

/-- The strings that the text of a term is made from. -/
def Term.strings : Term → List String
  | .iri i => [i]
  | .blank label => [label]
  | .literal ⟨lexical, datatype, none⟩ => [lexical, datatype]
  | .literal ⟨lexical, _, some tag⟩ => [lexical, tag]

def Property.strings (p : Property Schema) : List String :=
  p.name :: p.path :: (p.qualifiedPath.toList.flatMap QName.strings ++ p.datatype?.toList ++
    p.constraints.flatMap fun c => c.1.strings ++ c.2.strings)

/-- All strings that a schema's frame is written from. -/
def Schema.strings (s : Schema) : List String :=
  s.name :: s.targetType :: (s.qualifiedTarget.toList.flatMap QName.strings ++ s.shape.strings ++
    s.properties.flatMap Property.strings)

/-- **What makes a frame unambiguous**: every property is of a datatype, no path is empty or holds a NUL, and every string
is short enough that the last byte of its length is a zero. -/
structure Schema.Plain (s : Schema) : Prop where
  datatypes : ∀ p ∈ s.properties, ∃ iri, p.kind = .datatype iri
  paths : ∀ p ∈ s.properties, p.path ≠ "" ∧ '\x00' ∉ p.path.toList
  short : ∀ x ∈ s.strings, x.utf8ByteSize < 2 ^ 56

/-- A character is escaped to two of one byte each, or not at all. -/
theorem length_utf8_escapeChar_le (c : Char) :
    ((escapeChar c).flatMap String.utf8EncodeChar).length ≤ 2 * (String.utf8EncodeChar c).length := by
  by_cases hc : c ∈ ['"', '\\', '\n', '\r']
  · simp only [List.mem_cons, List.not_mem_nil, or_false] at hc
    rcases hc with rfl | rfl | rfl | rfl <;> decide
  · have hsame : escapeChar c = [c] := by
      simp only [List.mem_cons, List.not_mem_nil, or_false, not_or] at hc
      rw [escapeChar, if_neg hc.1, if_neg hc.2.1, if_neg hc.2.2.1, if_neg hc.2.2.2]
    rw [hsame, List.flatMap_singleton]
    omega

theorem length_utf8_escape_le : ∀ l : List Char,
    ((escape l).flatMap String.utf8EncodeChar).length ≤ 2 * (l.flatMap String.utf8EncodeChar).length
  | [] => Nat.le_refl _
  | c :: l => by
    have ih := length_utf8_escape_le l
    have hc := length_utf8_escapeChar_le c
    rw [escape_cons, List.flatMap_append, List.flatMap_cons, List.length_append, List.length_append]
    omega

theorem utf8ByteSize_escape_le (s : String) :
    (String.ofList (escape s.toList)).utf8ByteSize ≤ 2 * s.utf8ByteSize := by
  have h := length_utf8_escape_le s.toList
  rwa [← utf8_ofList, ← utf8_ofList, String.ofList_toList] at h

theorem fits_labelFor {qualified : Option QName} {iri : String}
    (h : ∀ x ∈ qualified.toList.flatMap QName.strings, x.utf8ByteSize < 2 ^ 56) (hiri : iri.utf8ByteSize < 2 ^ 56) :
    Fits (labelFor qualified iri) := by
  cases qualified with
  | none => exact fits_of_lt hiri
  | some q =>
    have hlabel := h q.label (by simp [QName.strings])
    have hname := h q.name (by simp [QName.strings])
    have hcolon : ":".utf8ByteSize = 1 := rfl
    simp only [Fits, labelFor, QName.text, String.utf8ByteSize_append]
    omega

theorem fits_text {t : Term} (h : ∀ x ∈ t.strings, x.utf8ByteSize < 2 ^ 56) : Fits t.text := by
  have hsizes : "<".utf8ByteSize = 1 ∧ ">".utf8ByteSize = 1 ∧ "_:".utf8ByteSize = 2 ∧ "\"".utf8ByteSize = 1 ∧
      "@".utf8ByteSize = 1 ∧ "^^<".utf8ByteSize = 3 ∧ "".utf8ByteSize = 0 := ⟨rfl, rfl, rfl, rfl, rfl, rfl, rfl⟩
  cases t with
  | iri i =>
    have hi := h i (List.mem_singleton_self i)
    simp only [Fits, Term.text, String.utf8ByteSize_append]
    omega
  | blank label =>
    have hlabel := h label (List.mem_singleton_self label)
    simp only [Fits, Term.text, String.utf8ByteSize_append]
    omega
  | literal l =>
    obtain ⟨lexical, datatype, language⟩ := l
    have hescaped := utf8ByteSize_escape_le lexical
    have hsuffix : (Literal.suffix ⟨lexical, datatype, language⟩).utf8ByteSize ≤ 2 ^ 56 + 4 ∧
        lexical.utf8ByteSize < 2 ^ 56 := by
      cases language with
      | none =>
        have hparts : lexical.utf8ByteSize < 2 ^ 56 ∧ datatype.utf8ByteSize < 2 ^ 56 := by simpa [Term.strings] using h
        unfold Literal.suffix
        dsimp only
        split
        · exact ⟨by omega, hparts.1⟩
        · simp only [String.utf8ByteSize_append]
          omega
      | some tag =>
        have hparts : lexical.utf8ByteSize < 2 ^ 56 ∧ tag.utf8ByteSize < 2 ^ 56 := by simpa [Term.strings] using h
        simp only [Literal.suffix, String.utf8ByteSize_append]
        omega
    simp only [Fits, Term.text, Literal.text, String.utf8ByteSize_append]
    omega

theorem Schema.Plain.legible {s : Schema} (h : s.Plain) (hp : p ∈ s.properties) : p.Legible := by
  obtain ⟨iri, hkind⟩ := h.datatypes p hp
  obtain ⟨hne, hnul⟩ := h.paths p hp
  have hshort : ∀ x ∈ p.strings, x.utf8ByteSize < 2 ^ 56 := fun x hx => h.short x (by
    have hmem := List.mem_flatMap.2 ⟨p, hp, hx⟩
    exact List.mem_cons_of_mem _ (List.mem_cons_of_mem _ (List.mem_append_right _ hmem)))
  simp only [Property.strings, List.forall_mem_cons, List.forall_mem_append, List.forall_mem_flatMap] at hshort
  obtain ⟨hname, hpath, ⟨hqualified, hdatatype⟩, hconstraints⟩ := hshort
  refine ⟨fits_of_lt hname, fits_of_lt hpath, beginsNonzero_of_notMem hne hnul, ?_, ⟨iri, hkind, ?_⟩, fun c hc => ?_⟩
  · exact fits_labelFor (List.forall_mem_flatMap.2 hqualified) hpath
  · exact hdatatype iri (by simp [Property.datatype?, hkind])
  · exact ⟨fits_text (hconstraints c hc).1, fits_text (hconstraints c hc).2⟩

/-- The four texts at the head of a plain schema's frame fit. -/
theorem Schema.Plain.head_fits {s : Schema} (h : s.Plain) :
    Fits s.name ∧ Fits s.targetType ∧ Fits s.targetLabel ∧ Fits s.shape.text := by
  have hshort := h.short
  simp only [Schema.strings, List.forall_mem_cons, List.forall_mem_append] at hshort
  obtain ⟨hname, htarget, ⟨hqualified, hshape⟩, -⟩ := hshort
  exact ⟨fits_of_lt hname, fits_of_lt htarget, fits_labelFor hqualified htarget, fits_text hshape⟩

/-- **A plain schema's frame stands for its content**: two such schemas have the same frame just when they have the same
content. -/
theorem Schema.frame_eq_iff_sameContent {s t : Schema} (hs : s.Plain) (ht : t.Plain) :
    s.frame = t.frame ↔ s.SameContent t := by
  rw [Schema.frame_eq, Schema.frame_eq]
  constructor
  · intro h
    obtain ⟨hname, htarget, hlabel, hshape⟩ := hs.head_fits
    obtain ⟨hname', htarget', hlabel', hshape'⟩ := ht.head_fits
    obtain ⟨hnames, h⟩ := framed_append_inj hname hname' h
    obtain ⟨htargets, h⟩ := framed_append_inj htarget htarget' h
    obtain ⟨hlabels, h⟩ := framed_append_inj hlabel hlabel' h
    obtain ⟨hshapes, h⟩ := framed_append_inj hshape hshape' h
    -- the properties come after no constraints
    have hproperties := (sameContent_of_frames (fun p hp => hs.legible hp) (fun q hq => ht.legible hq)
      (List.forall_mem_nil _) (List.forall_mem_nil _) h).2
    exact ⟨hnames, htargets, hlabels, hshapes, hproperties⟩
  · intro h
    rw [h.name_eq, h.targetType_eq, h.targetLabel_eq, h.shape_eq, frameProperties_congr hs.datatypes h.properties_eq]

namespace Example

def textProperty (constraints : List (Term × Term)) : Property Schema :=
  ⟨"text", "http://example.org/text", .datatype Xsd.string, none, constraints, none, none⟩

/-- The text of a memo is constrained by one pair. -/
def constrainedMemo : Schema :=
  ⟨"Memo", "http://example.org/Memo", none, .iri "http://example.org/MemoShape",
    [textProperty [(.iri "http://example.org/note", .iri "http://example.org/page")]]⟩

/-- The texts of that pair are the name and the path of a second property. -/
def pagedMemo : Schema :=
  ⟨"Memo", "http://example.org/Memo", none, .iri "http://example.org/MemoShape",
    [textProperty [],
      ⟨"<http://example.org/note>", "<http://example.org/page>", .datatype Xsd.string, none, [], none, none⟩]⟩

theorem plain_constrainedMemo : constrainedMemo.Plain where
  datatypes := List.forall_mem_singleton.2 ⟨_, rfl⟩
  paths := by decide
  short := by decide +kernel

theorem plain_pagedMemo : pagedMemo.Plain where
  datatypes := List.forall_mem_cons.2 ⟨⟨_, rfl⟩, List.forall_mem_singleton.2 ⟨_, rfl⟩⟩
  paths := by decide
  short := by decide +kernel

end Example

open Example in
/-- A constraint and a property of the same two texts make different frames. -/
theorem Schema.frame_eq_iff_sameContent_memo : constrainedMemo.Plain ∧ pagedMemo.Plain ∧
    constrainedMemo.frame ≠ pagedMemo.frame := by
  refine ⟨plain_constrainedMemo, plain_pagedMemo, fun h => ?_⟩
  have hcontent := (Schema.frame_eq_iff_sameContent plain_constrainedMemo plain_pagedMemo).1 h
  exact absurd hcontent.properties_eq.length_eq (by decide)

end ShapeBinding
