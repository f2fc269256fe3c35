import ShapeBinding.Number.Binary
import ShapeBinding.Number.Decimal
/-!
# The shortest decimal that reads back

A finite binary number stands for all the values that round to it: an interval around it whose ends belong to it when
the significand is even.  `shortest` finds the decimal with the fewest digits in that interval.  On the grid of the
leading digit, then on each finer grid, it tries the two neighbours of the exact value; the first grid with a hit wins,
of two hits the nearer one, and the upper one when both are equally near.
-/
namespace ShapeBinding
namespace Binary

/-- The interval of a finite number in quarters of its last place: below, at and above the value.  Under the first
number of a wider binade the places are half as wide. -/
def quarters (f : Binary) (significand : Nat) (exponent : Int) : Nat × Nat × Nat :=
  let value := 4 * significand
  let below := if significand = 2 ^ f.fractionBits ∧ f.leastExponent < exponent then 1 else 2
  (value - below, value, value + 2)

/-- The neighbour on the grid of `10 ^ place` that lies in the interval, the nearer of the two if both do. -/
def neighbour? (f : Binary) (significand : Nat) (exponent place : Int) : Option Nat :=
  let (low, value, high) := f.quarters significand exponent
  let unit := 10 ^ place.toNat * 2 ^ (2 - exponent).toNat
  let scale := 10 ^ (-place).toNat * 2 ^ (exponent - 2).toNat
  let inside (d : Nat) : Bool :=
    if significand % 2 = 0 then decide (low * scale ≤ d * unit) && decide (d * unit ≤ high * scale)
    else decide (low * scale < d * unit) && decide (d * unit < high * scale)
  let d := value * scale / unit
  match inside d, inside (d + 1) with
  | true, true => if 2 * (value * scale - d * unit) < unit then some d else some (d + 1)
  | true, false => some d
  | false, true => some (d + 1)
  | false, false => none

/-- The power of ten of the first decimal digit of a positive quotient. -/
def leadingPlace (num den : Nat) : Int :=
  let e : Int := ((digits num).length : Int) - (digits den).length
  if den * 10 ^ e.toNat ≤ num * 10 ^ (-e).toNat then e else e - 1

/-- The fewest digits that read back, and the power of ten that they count.  Seventeen digits are always enough; the
exact value stands in where the search is cut off. -/
def shortest (f : Binary) (significand : Nat) (exponent : Int) : Nat × Int :=
  let top := leadingPlace (significand * 2 ^ exponent.toNat) (2 ^ (-exponent).toNat)
  let found := (List.range 17).findSome? fun (n : Nat) =>
    (f.neighbour? significand exponent (top - n)).map fun d => (d, top - n)
  let (d, place) := found.getD
    (if 0 ≤ exponent then (significand * 2 ^ exponent.toNat, 0) else (significand * 5 ^ (-exponent).toNat, exponent))
  (d / 10 ^ trailingZeros d, place + trailingZeros d)

/-- A finite number in full, without an exponent mark: the shortest digits at their places. -/
def positionalText (f : Binary) (negative : Bool) (significand : Nat) (exponent : Int) : List Char :=
  let body := if significand = 0 then ['0'] else
    let (d, place) := f.shortest significand exponent
    positional (digits d) place
  if negative then '-' :: body else body

end Binary
end ShapeBinding
