import ShapeBinding.Number.Shortest
/-!
# Doubles

A double is a 64-bit pattern of the binary format.  `==` on doubles is equality of numbers: the two zeros are equal and
no number is equal to a pattern that is not a number.  Lexical forms are those of `xsd:double` and `xsd:float`; the
latter rounds to the narrower format first, and a double is written as a float only if it is one.
-/
namespace ShapeBinding

structure Double where
  bits : UInt64
  deriving DecidableEq, Repr, Inhabited

namespace Double

def reading (x : Double) : Binary.Reading := Binary.double.decode x.bits.toNat

def ofReading (r : Binary.Reading) : Double := ⟨UInt64.ofNat (Binary.double.encode r)⟩

def nan : Double := ofReading .nan

def isNaN (x : Double) : Bool := x.reading = .nan

/-- The two patterns of zero. -/
def isZero (x : Double) : Bool :=
  match x.reading with
  | .finite _ 0 _ => true
  | _ => false

def numEq (x y : Double) : Bool := !x.isNaN && !y.isNaN && (x.bits == y.bits || x.isZero && y.isZero)

instance : BEq Double := ⟨numEq⟩

/-! ## Writing -/

/-- The text of a value as `f` distinguishes it. -/
def readingText (f : Binary) : Binary.Reading → String
  | .nan => "NaN"
  | .infinite false => "INF"
  | .infinite true => "-INF"
  | .finite negative significand exponent => String.ofList (f.positionalText negative significand exponent)

def text (x : Double) : String := readingText .double x.reading

/-- The nearest value of the narrower format. -/
def toSingle (x : Double) : Binary.Reading := Binary.single.decode (Binary.single.encode x.reading)

/-- The text of a double that is a value of the narrower format, and nothing for one that is not. -/
def singleText? (x : Double) : Option String :=
  if x.isNaN || ofReading x.toSingle == x then some (readingText .single x.toSingle) else none

/-! ## Reading -/

/-- Digits with at most one point among them, then perhaps a power of ten: the sign, the digits as one number, and the
power of ten that they count. -/
def readScientific (s : List Char) : Option (Bool × Nat × Int) :=
  let (negative, body) := splitSign s
  let whole := body.takeWhile Char.isDigit
  let rest := body.dropWhile Char.isDigit
  let (fraction, rest) := match rest with
    | '.' :: t => (t.takeWhile Char.isDigit, t.dropWhile Char.isDigit)
    | _ => ([], rest)
  if whole.isEmpty && fraction.isEmpty then none
  else
    let n := numeral (whole ++ fraction)
    match rest with
    | [] => some (negative, n, -fraction.length)
    | c :: t =>
      let (negativePower, power) := splitSign t
      if (c == 'e' || c == 'E') && isNumeral power then
        let p : Int := numeral power
        some (negative, n, (if negativePower then -p else p) - fraction.length)
      else none

def read? (f : Binary) (s : String) : Option Binary.Reading :=
  if s = "INF" || s = "+INF" then some (.infinite false)
  else if s = "-INF" then some (.infinite true)
  else if s = "NaN" then some .nan
  else (readScientific s.toList).map fun (negative, n, e) =>
    f.decode ((if negative then f.signBit else 0) + f.ofScientific n e)

end Double
end ShapeBinding
