import ShapeBinding.Vocabulary
/-!
# RDF terms and triples

A term is an IRI, a blank node or a literal, and any of them may stand in any position of a triple.  `Term.text` and
`Triple.text` write the N-Triples form.  In a literal's lexical form four characters are escaped and everything else
is written as it is; a language hides the datatype, and `xsd:string` is left out.
-/
namespace ShapeBinding

structure Literal where
  lexical : String
  datatype : String
  language : Option String
  deriving DecidableEq, Repr, Inhabited

inductive Term where
  | iri (iri : String)
  | blank (label : String)
  | literal (literal : Literal)
  deriving DecidableEq, Repr, Inhabited

namespace Term

/-! ## Literals by their parts -/

def typed (lexical datatype : String) : Term := .literal ⟨lexical, datatype, none⟩

def string (lexical : String) : Term := typed lexical Xsd.string

/-- A literal in a language has the datatype `rdf:langString`. -/
def langString (lexical language : String) : Term := .literal ⟨lexical, Rdf.langString, some language⟩

/-! ## What kind of term it is -/

def iri? : Term → Option String
  | iri i => some i
  | _ => none

def literal? : Term → Option Literal
  | literal l => some l
  | _ => none

def isLiteral : Term → Bool
  | literal _ => true
  | _ => false

/-- A node can be the subject of further triples: it is an IRI or a blank node. -/
def isNode (t : Term) : Bool := !t.isLiteral

@[simp] theorem iri?_eq_some_iff {t : Term} {i : String} : t.iri? = some i ↔ t = iri i := by
  cases t <;> simp [iri?]

@[simp] theorem literal?_eq_some_iff {t : Term} {l : Literal} : t.literal? = some l ↔ t = literal l := by
  cases t <;> simp [literal?]

end Term

/-! ## N-Triples text -/

/-- One character of a lexical form as it is written between the quotes. -/
def escapeChar (c : Char) : List Char :=
  if c = '"' then ['\\', '"']
  else if c = '\\' then ['\\', '\\']
  else if c = '\n' then ['\\', 'n']
  else if c = '\r' then ['\\', 'r']
  else [c]

def escape (s : List Char) : List Char := s.flatMap escapeChar

@[simp] theorem escape_nil : escape [] = [] := rfl

@[simp] theorem escape_cons (c : Char) (s : List Char) : escape (c :: s) = escapeChar c ++ escape s := rfl

namespace Literal

/-- What follows the closing quote: the language, or else the datatype unless it is `xsd:string`. -/
def suffix (l : Literal) : String :=
  match l.language with
  | some tag => "@" ++ tag
  | none => if l.datatype = Xsd.string then "" else "^^<" ++ l.datatype ++ ">"

def text (l : Literal) : String := "\"" ++ String.ofList (escape l.lexical.toList) ++ "\"" ++ l.suffix

end Literal

def Term.text : Term → String
  | .iri i => "<" ++ i ++ ">"
  | .blank label => "_:" ++ label
  | .literal l => l.text

structure Triple where
  subject : Term
  predicate : Term
  object : Term
  deriving DecidableEq, Repr, Inhabited

def Triple.text (t : Triple) : String :=
  t.subject.text ++ " " ++ t.predicate.text ++ " " ++ t.object.text ++ " ."

end ShapeBinding
