import ShapeBinding.Number.FixedWidth
/-!
# Binary floating-point formats

A format has so many bits for the fraction and so many for the exponent; a bit pattern is a natural number.  `decode`
reads a pattern as a sign, a significand and a power of two, or as infinity or no number at all, and `encode` finds the
pattern nearest to an exact value: half-way cases go to the even pattern, and what is too large becomes infinity.
All arithmetic is on integers, so every step is exact until the one rounding.
-/
namespace ShapeBinding

/-- The quotient rounded to the nearest integer, a half to the even neighbour. -/
def divNearest (num den : Nat) : Nat :=
  let q := num / den
  let r := num % den
  if 2 * r < den then q else if den < 2 * r then q + 1 else q + q % 2

structure Binary where
  fractionBits : Nat
  exponentBits : Nat
  deriving DecidableEq, Repr

namespace Binary

def double : Binary := ⟨52, 11⟩

def single : Binary := ⟨23, 8⟩

/-- What a bit pattern stands for; a finite value is `significand * 2 ^ exponent` with its sign. -/
inductive Reading where
  | nan
  | infinite (negative : Bool)
  | finite (negative : Bool) (significand : Nat) (exponent : Int)
  deriving DecidableEq, Repr

/-- The power of two of the last place of the smallest numbers. -/
def leastExponent (f : Binary) : Int := 2 - 2 ^ (f.exponentBits - 1) - f.fractionBits

/-- The pattern of positive infinity: all exponent bits set and no fraction. -/
def infinity (f : Binary) : Nat := (2 ^ f.exponentBits - 1) * 2 ^ f.fractionBits

def signBit (f : Binary) : Nat := 2 ^ (f.exponentBits + f.fractionBits)

def decode (f : Binary) (bits : Nat) : Reading :=
  let negative := decide (f.signBit ≤ bits)
  let magnitude := bits % f.signBit
  let biased := magnitude / 2 ^ f.fractionBits
  let fraction := magnitude % 2 ^ f.fractionBits
  if f.infinity < magnitude then .nan
  else if magnitude = f.infinity then .infinite negative
  else if biased = 0 then .finite negative fraction f.leastExponent
  else .finite negative (2 ^ f.fractionBits + fraction) (f.leastExponent + biased - 1)

/-- The power of two of the first binary digit of a positive quotient. -/
def leadingExponent (num den : Nat) : Int :=
  let e : Int := (Nat.log2 num : Int) - Nat.log2 den
  if den * 2 ^ e.toNat ≤ num * 2 ^ (-e).toNat then e else e - 1

/-- The magnitude bits nearest to a positive quotient.  The exponent of the last place is the one that leaves the
significand its full width, or the least there is; a significand that rounds up to the next power of two carries into
the exponent bits by itself. -/
def nearest (f : Binary) (num den : Nat) : Nat :=
  let place := max f.leastExponent (leadingExponent num den - f.fractionBits)
  let significand := divNearest (num * 2 ^ (-place).toNat) (den * 2 ^ place.toNat)
  let bits := (place - f.leastExponent).toNat * 2 ^ f.fractionBits + significand
  min bits f.infinity

def encode (f : Binary) : Reading → Nat
  | .nan => f.infinity + 2 ^ (f.fractionBits - 1)
  | .infinite negative => (if negative then f.signBit else 0) + f.infinity
  | .finite negative significand exponent =>
    (if negative then f.signBit else 0) +
      if significand = 0 then 0
      else f.nearest (significand * 2 ^ exponent.toNat) (2 ^ (-exponent).toNat)

/-- The magnitude bits nearest to `n * 10 ^ exponent`.  Beyond four hundred decimal places either way the answer is
infinity or zero in every format of up to 64 bits, and no power of ten is worked out. -/
def ofScientific (f : Binary) (n : Nat) (exponent : Int) : Nat :=
  if n = 0 then 0
  else
    let top : Int := (Nat.toDigits 10 n).length + exponent
    if 400 < top then f.infinity
    else if top < -400 then 0
    else f.nearest (n * 10 ^ exponent.toNat) (10 ^ (-exponent).toNat)

end Binary
end ShapeBinding
