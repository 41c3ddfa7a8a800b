import StoreBridge.Binary64

/-! Floating-point numbers of 64 significant bits, without a sign and without bounds on their
exponents. Every operation gives the number nearest to the exact result, a tie going to the even
significand. They carry calculations whose result is rounded once more, to a number of fewer bits;
because of the first rounding that need not be the number nearest to the exact result. -/
namespace StoreBridge

/-- The number `significand * 2 ^ power`. -/
structure Binary80 where
  significand : Nat
  power : Int
deriving DecidableEq

namespace Binary80

/-- The number as a numerator over a denominator. -/
def ratio (x : Binary80) : Nat × Nat :=
  if 0 ≤ x.power then (x.significand * Nat.pow 2 x.power.toNat, 1)
  else (x.significand, Nat.pow 2 (-x.power).toNat)

/-- The number nearest to a ratio. -/
def ofRatio (num den : Nat) : Binary80 :=
  if num = 0 then ⟨0, 0⟩
  else
    let power := Binary64.floorLog2 num den - 63
    ⟨Binary64.inUnits num den power, power⟩

/-- The number nearest to a whole one. -/
def ofNat (n : Nat) : Binary80 :=
  ofRatio n 1

/-- A finite number of fewer bits, without its sign. -/
def ofBinary64 (x : Binary64) : Binary80 :=
  ofRatio x.ratio.1 x.ratio.2

/-- The number with a sign, rounded to fewer bits. -/
def toBinary64 (negative : Bool) (x : Binary80) : Binary64 :=
  .ofRatio negative x.ratio.1 x.ratio.2

/-- The sum. -/
def add (x y : Binary80) : Binary80 :=
  ofRatio (x.ratio.1 * y.ratio.2 + y.ratio.1 * x.ratio.2) (x.ratio.2 * y.ratio.2)

/-- The product. -/
def mul (x y : Binary80) : Binary80 :=
  ofRatio (x.ratio.1 * y.ratio.1) (x.ratio.2 * y.ratio.2)

/-- The quotient. -/
def div (x y : Binary80) : Binary80 :=
  ofRatio (x.ratio.1 * y.ratio.2) (x.ratio.2 * y.ratio.1)

/-- The first number is at most the second. -/
def le (x y : Binary80) : Bool :=
  decide (x.ratio.1 * y.ratio.2 ≤ y.ratio.1 * x.ratio.2)

/-- The whole part. -/
def floor (x : Binary80) : Nat :=
  x.ratio.1 / x.ratio.2

/-- What is left without the whole part. -/
def fraction (x : Binary80) : Binary80 :=
  ofRatio (x.ratio.1 % x.ratio.2) x.ratio.2

/-- The power of ten that a decimal literal of fewer bits stands for. -/
def literalTen (exponent : Int) : Binary80 :=
  ofBinary64 (.ofDecimal false ⟨1, exponent⟩)

/-- The product with the powers of `x` that the binary digits of an exponent name. -/
def timesPower (product x : Binary80) (exponent : Nat) : Binary80 :=
  if exponent = 0 then product
  else timesPower (if exponent % 2 = 1 then product.mul x else product) (x.mul x) (exponent / 2)
termination_by exponent

/-- A power of ten, calculated by squaring. -/
def tenPower (exponent : Nat) : Binary80 :=
  timesPower (ofNat 1) (ofNat 10) exponent

end Binary80
end StoreBridge
