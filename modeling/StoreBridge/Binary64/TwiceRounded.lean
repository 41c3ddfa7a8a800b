import StoreBridge.Binary64.Shortest
import StoreBridge.Binary80

/-! Decimal numbers that the store reads and writes. It calculates with wider numbers and rounds the
result, so that a number may read as a neighbour of the one nearest to it, and may be written with
the last digit rounded down from a half. -/
namespace StoreBridge

namespace Decimal
open Text

/-- Digits beyond this significand are left out. -/
def fullSignificand : Nat := 922337203685477579

/-- The number with one more digit before the point. -/
def withWholeDigit (d : Decimal) (c : Char) : Decimal :=
  if fullSignificand ≤ d.digits then ⟨d.digits, d.exponent + 1⟩
  else ⟨10 * d.digits + digitValue c, d.exponent⟩

/-- The number with one more digit behind the point. -/
def withFractionDigit (d : Decimal) (c : Char) : Decimal :=
  if fullSignificand ≤ d.digits then d
  else ⟨10 * d.digits + digitValue c, d.exponent - 1⟩

/-- An exponent, which is not followed far beyond every range. -/
def boundedExponent (ds : List Char) : Nat :=
  ds.foldl (fun e c => if e < 10000 then 10 * e + digitValue c else 10000) 0

/-- The number with these digits before and after the point, times a power of ten; of very many
digits the last are left out. -/
def ofDigits (whole fraction : List Char) (exponent : Int) : Decimal :=
  let d := fraction.foldl withFractionDigit (whole.foldl withWholeDigit ⟨0, 0⟩)
  ⟨d.digits, d.exponent + exponent⟩

/-- The significand may still be multiplied by ten below this bound. -/
def roomySignificand : Nat := 922337203685477580

/-- Moves tens from a power of ten into a significand that has room for them. -/
def raised : (exponent significand : Nat) → Nat × Nat
  | 0, n => (0, n)
  | e + 1, n => if n < roomySignificand then raised e (10 * n) else (e + 1, n)

/-- Cancels the zeros at the end of a significand against a divisor that is a power of ten. -/
def cancelled : (exponent significand : Nat) → Nat × Nat
  | 0, n => (0, n)
  | e + 1, n => if n % 10 = 0 then cancelled e (n / 10) else (e + 1, n)

end Decimal

namespace Binary64
open Decimal

/-- The floating-point number that a significand times a power of ten is read as. -/
def readProduct (negative : Bool) (exponent significand : Nat) : Binary64 :=
  let n := Binary80.ofNat significand
  if exponent ≤ 307 then (n.mul (.tenPower exponent)).toBinary64 negative
  else if exponent < 342 then
    ((n.mul (.tenPower (exponent - 308))).toBinary64 negative).timesTen 308
  else ofMagnitude negative infiniteMagnitude

/-- The floating-point number that a significand divided by a power of ten is read as. -/
def readQuotient (negative : Bool) (exponent significand : Nat) : Binary64 :=
  let n := Binary80.ofNat significand
  if exponent ≤ 307 then (n.div (.tenPower exponent)).toBinary64 negative
  else if exponent < 342 then
    ((n.div (.tenPower (exponent - 308))).toBinary64 negative).overTen 308
  else ofMagnitude negative 0

/-- The floating-point number that a decimal is read as. -/
def read (negative : Bool) (d : Decimal) : Binary64 :=
  if d.digits = 0 then ofMagnitude negative 0
  else
    let (exponent, significand) :=
      if 0 ≤ d.exponent then raised d.exponent.toNat d.digits
      else cancelled (-d.exponent).toNat d.digits
    if exponent = 0 then ofRatio negative significand 1
    else if 0 ≤ d.exponent then readProduct negative exponent significand
    else readQuotient negative exponent significand

/-- A scale, and its exponent, raised in steps while the scaled step does not exceed a number. -/
def raisedScale (x step : Binary80) (stepExponent : Int) :
    (steps : Nat) → Binary80 × Int → Binary80 × Int
  | 0, s => s
  | steps + 1, (scale, exponent) =>
    if (step.mul scale).le x then
      raisedScale x step stepExponent steps (scale.mul step, exponent + stepExponent)
    else (scale, exponent)

/-- A number, and its exponent, raised in steps while it is below a bound. -/
def raisedNumber (bound step : Binary80) (stepExponent : Int) :
    (steps : Nat) → Binary80 × Int → Binary80 × Int
  | 0, s => s
  | steps + 1, (x, exponent) =>
    if bound.le x then (x, exponent)
    else raisedNumber bound step stepExponent steps (x.mul step, exponent - stepExponent)

/-- A positive number as one between one and ten, and the exponent of its leading digit. -/
def normalised (x : Binary80) : Binary80 × Int :=
  let ten (k : Int) := Binary80.literalTen k
  let (scale, exponent) := raisedScale x (ten 1) 1 10
    (raisedScale x (ten 10) 10 10 (raisedScale x (ten 100) 100 4 (ten 0, 0)))
  raisedNumber (ten 0) (ten 1) 1 10
    (raisedNumber (ten (-8)) (ten 8) 8 50 (x.div scale, exponent))

/-- Half a unit of the fifteenth digit, as it is calculated. -/
def roundingShare : Binary80 :=
  let x := (ofDecimal false ⟨5, -5⟩).ratio
  let y := (ofDecimal false ⟨1, -10⟩).ratio
  .ofBinary64 (ofRatio false (x.1 * y.1) (x.2 * y.2))

/-- The number that the next digits of a number below ten write, behind those before them. -/
def nextDigits : (count digits : Nat) → Binary80 → Nat
  | 0, digits, _ => digits
  | count + 1, digits, x =>
    nextDigits count (10 * digits + x.floor) (x.fraction.mul (.ofNat 10))

/-- The decimal with fifteen significant digits that a finite number is written as. -/
def columnDecimal (x : Binary64) : Decimal :=
  if x.magnitude = 0 then ⟨0, 0⟩
  else
    let (y, exponent) := normalised (.ofBinary64 x)
    let y := y.add roundingShare
    let (y, exponent) :=
      if (Binary80.ofNat 10).le y then (y.mul (.literalTen (-1)), exponent + 1) else (y, exponent)
    ⟨nextDigits 15 0 y, exponent - 14⟩

/-- A number in a column of texts has fifteen significant digits, is positional from 0.0001 up to
fifteen digits before the point, and has a point in either form. -/
def columnLayout : Decimal.Layout :=
  ⟨some (-4), some 14, true, true, true, 2⟩

/-- The text of a number that is stored in a column of texts. Zero has no sign there. -/
def columnText (x : Binary64) : String :=
  if x.isNaN then "NaN"
  else if x.magnitude = 0 then x.abs.signed (x.columnDecimal.write columnLayout)
  else if x.isFinite then x.signed (x.columnDecimal.write columnLayout)
  else if x.isNegative then "-Inf" else "Inf"

end Binary64
end StoreBridge
