import TemplateTree.Number.Double

/-! The shortest decimal text of a double-precision number. Among the decimals that round
to the number the one with the fewest digits is taken, of these the nearest, and of two
equally near ones the even one. -/

namespace TemplateTree

/-- The value `digits * 10 ^ exponent`. -/
structure Decimal where
  digits : Nat
  exponent : Int
deriving DecidableEq, Repr

namespace Decimal

/-- The significant digits, without zeros at the end. -/
def significant (d : Decimal) : List Char :=
  ((Nat.toDigits 10 d.digits).reverse.dropWhile (· == '0')).reverse

/-- The power of ten of the first digit. -/
def leading (d : Decimal) : Int :=
  d.exponent + (Nat.toDigits 10 d.digits).length - 1

end Decimal

namespace Magnitude

/-- The power of ten of the first digit of a positive fraction. -/
def leadingTen (num den : Nat) : Int :=
  if den ≤ num then (Nat.toDigits 10 (num / den)).length - 1
  else -(Nat.toDigits 10 ((den - 1) / num)).length

/-- The quarter steps around a magnitude that bound the reals rounding to it: the step below
a power of two is half as wide as the step above. -/
def bounds (m : Magnitude) : Nat × Nat :=
  let below := if m.mantissa = twoTo 52 ∧ leastExponent < m.exponent then 1 else 2
  (4 * m.mantissa - below, 4 * m.mantissa + 2)

/-- The decimal with `count` digits that is nearest to a positive magnitude, if it rounds to it. -/
def decimalOf? (m : Magnitude) (count : Nat) : Option Decimal :=
  let exponent := leadingTen m.numerator m.denominator - count + 1
  let quarter := m.exponent - 2
  let decimalUnit := tenTo exponent.toNat * twoTo (-quarter).toNat
  let quarterUnit := tenTo (-exponent).toNat * twoTo quarter.toNat
  let target := 4 * m.mantissa * quarterUnit
  let (low, high) := m.bounds
  let admits (n : Nat) : Bool :=
    if m.mantissa % 2 = 0 then low * quarterUnit ≤ n * decimalUnit ∧ n * decimalUnit ≤ high * quarterUnit
    else low * quarterUnit < n * decimalUnit ∧ n * decimalUnit < high * quarterUnit
  let floor := target / decimalUnit
  let nearest := roundQuotient target decimalUnit
  if admits nearest then some ⟨nearest, exponent⟩
  else if admits floor then some ⟨floor, exponent⟩
  else if admits (floor + 1) then some ⟨floor + 1, exponent⟩
  else none

/-- Seventeen digits always suffice. -/
def shortest (m : Magnitude) : Decimal :=
  if m.mantissa = 0 then ⟨0, 0⟩
  else ((List.range 17).findSome? fun n => m.decimalOf? (n + 1)).getD ⟨m.mantissa, m.exponent⟩

end Magnitude

namespace Decimal

def zeros (count : Int) : List Char :=
  List.replicate count.toNat '0'

/-- Plain notation covers the powers of ten from -5 to 15 and always shows a point. -/
def text (d : Decimal) : List Char :=
  let digits := d.significant
  let power := d.leading
  if digits.isEmpty then ['0', '.', '0']
  else if 0 ≤ power ∧ power < 16 then
    let whole := power.toNat + 1
    let fraction := digits.drop whole
    digits.take whole ++ zeros (whole - digits.length) ++
      '.' :: (if fraction.isEmpty then ['0'] else fraction)
  else if -5 ≤ power ∧ power < 0 then
    '0' :: '.' :: (zeros (-power - 1) ++ digits)
  else
    let fraction := digits.drop 1
    digits.take 1 ++ (if fraction.isEmpty then [] else '.' :: fraction) ++
      'e' :: (if power < 0 then '-' else '+') :: Nat.toDigits 10 power.natAbs

end Decimal

namespace Double

def display (x : Double) : String :=
  let text := x.magnitude.shortest.text
  String.ofList (if x.negative then '-' :: text else text)

end Double

end TemplateTree
