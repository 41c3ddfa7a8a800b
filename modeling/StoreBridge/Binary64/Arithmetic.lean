import StoreBridge.Binary64

/-! Calculating with floating-point numbers. The exact result is rounded to the nearest number; what
has no result, such as the difference of two infinities, gives none. -/
namespace StoreBridge.Binary64

/-- The bits below the sign, with the sign. They are ordered as the numbers are. -/
def signedMagnitude (x : Binary64) : Int :=
  if x.isNegative then -(x.magnitude : Int) else x.magnitude

/-- The order of two numbers. -/
def compare (x y : Binary64) : Ordering :=
  compareOfLessAndEq x.signedMagnitude y.signedMagnitude

/-- The order of an integer and a number. -/
def compareInt (n : Int) (x : Binary64) : Ordering :=
  if !x.isFinite then if x.isNegative then .gt else .lt
  else
    let (num, den) := x.ratio
    compareOfLessAndEq (n * den) (if x.isNegative then -(num : Int) else num)

/-- The integer that is left of a number without its fraction; the nearest integer of 64 bits for
numbers beyond those. -/
def truncated (x : Binary64) : Int64 :=
  let bound := 9223372036854775808
  let n := x.ratio.1 / x.ratio.2
  if x.isNegative then Int64.ofInt (if x.isFinite && n < bound then -(n : Int) else -bound)
  else Int64.ofInt (if x.isFinite && n < bound then n else bound - 1)

/-- The infinity with a sign. -/
def infinity (negative : Bool) : Binary64 :=
  ofMagnitude negative infiniteMagnitude

/-- The number nearest to a numerator with a sign over a denominator. A zero has the sign given. -/
def ofSigned (zeroNegative : Bool) (num : Int) (den : Nat) : Binary64 :=
  if num = 0 then ofMagnitude zeroNegative 0 else ofRatio (decide (num < 0)) num.natAbs den

/-- The numerator of a finite number, with its sign. -/
def numerator (x : Binary64) : Int :=
  if x.isNegative then -(x.ratio.1 : Int) else x.ratio.1

/-- The sum. -/
def add? (x y : Binary64) : Option Binary64 :=
  if x.isNaN || y.isNaN then none
  else if !x.isFinite && !y.isFinite then if x == y then some x else none
  else if !x.isFinite then some x
  else if !y.isFinite then some y
  else some (ofSigned (x.isNegative && y.isNegative)
    (x.numerator * y.ratio.2 + y.numerator * x.ratio.2) (x.ratio.2 * y.ratio.2))

/-- The product. -/
def multiply? (x y : Binary64) : Option Binary64 :=
  let negative := x.isNegative != y.isNegative
  if x.isNaN || y.isNaN then none
  else if x.isFinite && y.isFinite then
    some (ofSigned negative (x.numerator * y.numerator) (x.ratio.2 * y.ratio.2))
  else if x.magnitude = 0 ∨ y.magnitude = 0 then none
  else some (infinity negative)

/-- The quotient. -/
def divide? (x y : Binary64) : Option Binary64 :=
  let negative := x.isNegative != y.isNegative
  if x.isNaN || y.isNaN || y.magnitude == 0 then none
  else if x.isFinite && y.isFinite then
    some (ofSigned negative
      (if negative then -(x.ratio.1 * y.ratio.2 : Nat) else (x.ratio.1 * y.ratio.2 : Nat))
      (x.ratio.2 * y.ratio.1))
  else if x.isFinite then some (ofMagnitude negative 0)
  else if y.isFinite then some (infinity negative)
  else none

end StoreBridge.Binary64
