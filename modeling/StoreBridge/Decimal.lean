import StoreBridge.Text.Digit

/-! Decimal numbers, a whole number of units of some power of ten, and the ways of writing them. A
layout decides between positional and exponent form by the exponent of the leading digit, and
settles what stands beside the digits; the digits themselves are those of the number, without the
zeros at their end. -/
namespace StoreBridge

/-- The number `digits * 10 ^ exponent`. -/
structure Decimal where
  digits : Nat
  exponent : Int
deriving DecidableEq

namespace Decimal
open Text

/-- The number with these digits before and after the point, times a power of ten. -/
def ofParts (whole fraction : List Char) (exponent : Int) : Decimal :=
  ⟨decimalValue 0 (whole ++ fraction), exponent - fraction.length⟩

/-- The exponent of the leading digit: the number lies between this power of ten and the next. -/
def lead (d : Decimal) : Int :=
  d.exponent + (natural d.digits).length - 1

/-- The significant digits. The zeros at the end say nothing and are left out. -/
def significant (d : Decimal) : List Char :=
  ((natural d.digits).reverse.dropWhile (· == '0')).reverse

/-- How numbers are laid out. -/
structure Layout where
  /-- The least exponent of the leading digit that is written positionally, if there is one. -/
  least : Option Int
  /-- The greatest such exponent, if there is one. -/
  greatest : Option Int
  /-- A whole number in positional form ends in `.0`. -/
  pointZero : Bool
  /-- A single digit in front of an exponent is followed by `.0`. -/
  leadZero : Bool
  /-- A positive exponent carries a plus sign. -/
  plus : Bool
  /-- The least number of digits of an exponent. -/
  exponentWidth : Nat

/-- The exponent of the leading digit lies in the positional range. -/
def Layout.isPositional (layout : Layout) (e : Int) : Bool :=
  layout.least.all (decide <| · ≤ e) && layout.greatest.all (decide <| e ≤ ·)

/-- Digits with the point after the first `n` of them, `n` being one more than the exponent of the
leading digit; zeros fill the places up to the point. -/
def Layout.positional (layout : Layout) (ds : List Char) (e : Int) : List Char :=
  if e < 0 then '0' :: '.' :: List.replicate (-e - 1).toNat '0' ++ ds
  else
    let n := e.toNat + 1
    let fraction := ds.drop n
    ds.take n ++ List.replicate (n - ds.length) '0' ++
      (if fraction.isEmpty then (if layout.pointZero then ['.', '0'] else []) else '.' :: fraction)

/-- The exponent with its sign. -/
def Layout.exponentPart (layout : Layout) (e : Int) : List Char :=
  'e' :: (if e < 0 then ['-'] else if layout.plus then ['+'] else []) ++
    padded layout.exponentWidth e.natAbs

/-- One digit, the point, the other digits, and the exponent. -/
def Layout.scientific (layout : Layout) (ds : List Char) (e : Int) : List Char :=
  (match ds with
    | [] => []
    | [d] => if layout.leadZero then [d, '.', '0'] else [d]
    | d :: rest => d :: '.' :: rest) ++ layout.exponentPart e

/-- The text of a number without its sign. -/
def write (layout : Layout) (d : Decimal) : List Char :=
  if d.digits = 0 then layout.positional ['0'] 0
  else if layout.isPositional d.lead then layout.positional d.significant d.lead
  else layout.scientific d.significant d.lead

end Decimal
end StoreBridge
