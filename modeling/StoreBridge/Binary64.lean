import StoreBridge.Decimal

/-! Binary floating-point numbers of 64 bits, held as their bit patterns. A finite number is a whole
significand times a power of two, and everything here is exact arithmetic on those two: a ratio is
rounded to the nearest such number, a tie going to the even significand, and a ratio beyond the
greatest finite number to infinity. -/
namespace StoreBridge

/-- A 64-bit floating-point number: sign, eleven bits of exponent, 52 bits of fraction. -/
structure Binary64 where
  bits : UInt64
deriving DecidableEq

namespace Binary64

/-- The sign bit is set. -/
def isNegative (x : Binary64) : Bool :=
  decide (Nat.pow 2 63 ≤ x.bits.toNat)

/-- The bits below the sign. -/
def magnitude (x : Binary64) : Nat :=
  x.bits.toNat % Nat.pow 2 63

/-- The magnitude of the infinities; larger ones are no numbers. -/
def infiniteMagnitude : Nat :=
  2047 * Nat.pow 2 52

/-- Neither infinite nor undefined. -/
def isFinite (x : Binary64) : Bool :=
  decide (x.magnitude < infiniteMagnitude)

/-- The undefined results, which are no numbers. -/
def isNaN (x : Binary64) : Bool :=
  decide (infiniteMagnitude < x.magnitude)

/-- The whole number that a finite number is a multiple of a power of two of. -/
def significand (x : Binary64) : Nat :=
  if x.magnitude < Nat.pow 2 52 then x.magnitude
  else x.magnitude % Nat.pow 2 52 + Nat.pow 2 52

/-- The exponent of that power of two. -/
def power (x : Binary64) : Int :=
  max (x.magnitude / Nat.pow 2 52 : Nat) 1 - 1075

/-- The absolute value of a finite number as a numerator over a denominator. -/
def ratio (x : Binary64) : Nat × Nat :=
  if 0 ≤ x.power then (x.significand * Nat.pow 2 x.power.toNat, 1)
  else (x.significand, Nat.pow 2 (-x.power).toNat)

/-- The number with a sign and a magnitude. -/
def ofMagnitude (negative : Bool) (m : Nat) : Binary64 :=
  ⟨UInt64.ofNat (m + if negative then Nat.pow 2 63 else 0)⟩

/-- The number without its sign. -/
def abs (x : Binary64) : Binary64 :=
  ofMagnitude false x.magnitude

/-- The number with the other sign. -/
def neg (x : Binary64) : Binary64 :=
  ofMagnitude (!x.isNegative) x.magnitude

/-- The whole number nearest to a ratio; of two equally near, the even one. -/
def nearestEven (num den : Nat) : Nat :=
  let q := num / den
  let r := num % den
  if 2 * r < den then q else if den < 2 * r then q + 1 else q + q % 2

/-- The exponent of the greatest power of two that is at most a positive ratio. -/
def floorLog2 (num den : Nat) : Int :=
  let e : Int := num.log2 - den.log2
  if (if 0 ≤ e then den * Nat.pow 2 e.toNat ≤ num else den ≤ num * Nat.pow 2 (-e).toNat) then e
  else e - 1

/-- The multiple of `2 ^ power` nearest to a ratio, counted in that unit. -/
def inUnits (num den : Nat) (power : Int) : Nat :=
  if 0 ≤ power then nearestEven num (den * Nat.pow 2 power.toNat)
  else nearestEven (num * Nat.pow 2 (-power).toNat) den

/-- The floating-point number nearest to a ratio: 53 significant bits, fewer near zero. -/
def ofRatio (negative : Bool) (num den : Nat) : Binary64 :=
  if num = 0 then ofMagnitude negative 0
  else
    let power := max (floorLog2 num den - 52) (-1074)
    ofMagnitude negative
      (min ((power + 1074).toNat * Nat.pow 2 52 + inUnits num den power) infiniteMagnitude)

/-- The floating-point number nearest to a decimal one. Decimals far outside the range are told by
the exponent of their leading digit. -/
def ofDecimal (negative : Bool) (d : Decimal) : Binary64 :=
  if d.digits = 0 ∨ d.lead < -330 then ofMagnitude negative 0
  else if 330 < d.lead then ofMagnitude negative infiniteMagnitude
  else if 0 ≤ d.exponent then ofRatio negative (d.digits * Nat.pow 10 d.exponent.toNat) 1
  else ofRatio negative d.digits (Nat.pow 10 (-d.exponent).toNat)

/-- The floating-point number nearest to an integer. -/
def ofInt (n : Int) : Binary64 :=
  ofRatio (decide (n < 0)) n.natAbs 1

/-- The product with a power of ten that has itself been rounded. -/
def timesTen (x : Binary64) (k : Nat) : Binary64 :=
  let p := (ofInt (Nat.pow 10 k : Nat)).ratio
  ofRatio x.isNegative (x.ratio.1 * p.1) (x.ratio.2 * p.2)

/-- The quotient by a power of ten that has itself been rounded. -/
def overTen (x : Binary64) (k : Nat) : Binary64 :=
  let p := (ofInt (Nat.pow 10 k : Nat)).ratio
  ofRatio x.isNegative (x.ratio.1 * p.2) (x.ratio.2 * p.1)

/-- The integer that a finite number equals, if it is whole. -/
def toInt? (x : Binary64) : Option Int :=
  let (num, den) := x.ratio
  if x.isFinite && num % den == 0 then
    some (if x.isNegative then -(num / den : Nat) else (num / den : Nat))
  else none

/-- Equal as numbers: the two zeros are equal, and what is no number equals nothing. -/
def sameNumber (x y : Binary64) : Bool :=
  !x.isNaN && (x == y || (x.magnitude == 0 && y.magnitude == 0))

end Binary64
end StoreBridge
