import ShapeBinding.Digest.Sha256
import ShapeBinding.Schema
/-!
# Fingerprints

A fingerprint stands for the content of a schema: the first sixteen bytes of a digest.  `Schema.frame` writes the content
as bytes.  Every text goes after its length, a kind and a count after a byte that says which case it is, and a nested
schema is represented by its own fingerprint.
-/
namespace ShapeBinding

def littleEndian (count n : Nat) : List UInt8 := (List.range count).map fun i => UInt8.ofNat (n / 256 ^ i)

def utf8 (s : String) : List UInt8 := s.toUTF8.data.toList

/-- A text after its length in bytes, which takes eight bytes itself. -/
def framed (s : String) : List UInt8 := littleEndian 8 (utf8 s).length ++ utf8 s

def framedCount : Option UInt32 → List UInt8
  | none => [0]
  | some max => 1 :: littleEndian 4 max.toNat

def framedConstraints (cs : List (Term × Term)) : List UInt8 := cs.flatMap fun c => framed c.1.text ++ framed c.2.text

/-- The first sixteen bytes of a digest. -/
def fingerprintOf (bytes : List UInt8) : List UInt8 := (sha256 bytes).take 16

mutual

/-- The content of a schema as bytes. -/
def Schema.frame : Schema → List UInt8
  | ⟨name, target, qualifiedTarget, shape, properties⟩ =>
    framed name ++ framed target ++ framed (labelFor qualifiedTarget target) ++ framed shape.text ++
      Schema.frameProperties properties

def Schema.frameProperties : List (Property Schema) → List UInt8
  | [] => []
  | p :: ps => Schema.frameProperty p ++ Schema.frameProperties ps

def Schema.frameProperty : Property Schema → List UInt8
  | ⟨name, path, kind, maxCount, constraints, qualifiedPath, _⟩ =>
    framed name ++ framed path ++ framed (labelFor qualifiedPath path) ++ Schema.frameKind kind ++
      framedCount maxCount ++ framedConstraints constraints

def Schema.frameKind : ValueKind Schema → List UInt8
  | .datatype iri => 0 :: framed iri
  | .nested s => 1 :: fingerprintOf s.frame

end

def Schema.fingerprint (s : Schema) : List UInt8 := fingerprintOf s.frame

end ShapeBinding
