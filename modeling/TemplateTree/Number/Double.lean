/-! Finite double-precision numbers. A magnitude is an exact integer times a power of two;
`Magnitude.nearest` rounds a fraction to it, and all arithmetic goes through that rounding. -/

namespace TemplateTree

def twoTo (n : Nat) : Nat :=
  Nat.pow 2 n

def tenTo (n : Nat) : Nat :=
  Nat.pow 10 n

/-- The value `mantissa * 2 ^ exponent`. Every magnitude comes from `Magnitude.nearest` or
from the fields of a bit pattern, so equal values are equal structures. -/
structure Magnitude where
  mantissa : Nat
  exponent : Int
deriving DecidableEq, Repr

namespace Magnitude

def leastExponent : Int := -1074

def greatestExponent : Int := 971

def zero : Magnitude := ⟨0, leastExponent⟩

def numerator (m : Magnitude) : Nat :=
  m.mantissa * twoTo m.exponent.toNat

def denominator (m : Magnitude) : Nat :=
  twoTo (-m.exponent).toNat

/-- The quotient rounded to an integer; a half goes to the even neighbour. -/
def roundQuotient (num den : Nat) : Nat :=
  let q := num / den
  let r := num % den
  if den < 2 * r ∨ 2 * r = den ∧ q % 2 = 1 then q + 1 else q

/-- The least exponent at which the quotient has at most 53 bits. -/
def quantum (num den : Nat) : Int :=
  let e : Int := num.log2 - den.log2 - 53
  let fits := num * twoTo (-(e + 53)).toNat < den * twoTo (e + 53).toNat
  max leastExponent (if fits then e else e + 1)

/-- The magnitude nearest to `num / den`, unless that is too large. -/
def nearest (num den : Nat) : Option Magnitude :=
  if num = 0 then some zero
  else
    let e := quantum num den
    let q := roundQuotient (num * twoTo (-e).toNat) (den * twoTo e.toNat)
    let m := if q = twoTo 53 then ⟨twoTo 52, e + 1⟩ else ⟨q, e⟩
    if m.exponent ≤ greatestExponent then some m else none

def ofNat? (n : Nat) : Option Magnitude :=
  nearest n 1

def mul? (a b : Magnitude) : Option Magnitude :=
  nearest (a.numerator * b.numerator) (a.denominator * b.denominator)

def div? (a b : Magnitude) : Option Magnitude :=
  nearest (a.numerator * b.denominator) (a.denominator * b.numerator)

/-- The greatest power of ten that has a magnitude. -/
def greatestTen : Nat := 308

/-- Multiplies or divides by a power of ten, itself rounded first. A power beyond
`greatestTen` is divided out in steps, each of them rounded. -/
def scaleTen? (m : Magnitude) (exponent : Int) : Option Magnitude :=
  if exponent.natAbs ≤ greatestTen then do
    let ten ← ofNat? (tenTo exponent.natAbs)
    if 0 ≤ exponent then m.mul? ten else m.div? ten
  else if m.mantissa = 0 then some m
  else if 0 ≤ exponent then none
  else do
    let ten ← ofNat? (tenTo greatestTen)
    (← m.div? ten).scaleTen? (exponent + greatestTen)
termination_by exponent.natAbs
decreasing_by simp only [greatestTen] at *; omega

end Magnitude

structure Double where
  negative : Bool
  magnitude : Magnitude
deriving DecidableEq, Repr

namespace Double

/-- Zeros of both signs are the same number. -/
def same (x y : Double) : Bool :=
  x.magnitude == y.magnitude && (x.negative == y.negative || x.magnitude.mantissa == 0)

/-- Reads the 64 bits of a number; infinities and not-a-number patterns are not finite. -/
def ofBits? (bits : Nat) : Option Double :=
  let exponent : Nat := bits / twoTo 52 % twoTo 11
  let fraction : Nat := bits % twoTo 52
  let negative := bits / twoTo 63 % 2 == 1
  if exponent = twoTo 11 - 1 then none
  else if exponent = 0 then some ⟨negative, fraction, Magnitude.leastExponent⟩
  else some ⟨negative, fraction + twoTo 52, Magnitude.leastExponent + (exponent - 1)⟩

end Double

end TemplateTree
