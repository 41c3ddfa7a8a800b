import StoreBridge.Binary64

/-! Decimal texts of floating-point numbers. The shortest decimal of a number has the fewest digits
that read back to it, and of the decimals with so few digits it is the nearest: the number's two
neighbours on ever finer decimal grids are tried until one of them reads back. -/
namespace StoreBridge.Binary64
open Text

/-- Which of two equally near decimals is taken. -/
inductive Tie where
  | up
  | even
deriving DecidableEq

/-- The exponent of the leading decimal digit of a positive ratio. -/
def floorLog10 (num den : Nat) : Int :=
  if den ≤ num then (natural (num / den)).length - 1
  else -(natural ((den + num - 1) / num - 1)).length

/-- A ratio in units of `10 ^ g`, as a ratio. -/
def inTens (num den : Nat) (g : Int) : Nat × Nat :=
  if 0 ≤ g then (num, den * Nat.pow 10 g.toNat) else (num * Nat.pow 10 (-g).toNat, den)

/-- The neighbours of a ratio on the grid of whole numbers, the nearer one first. A whole ratio is
its own only neighbour. -/
def neighbours (tie : Tie) (num den : Nat) : List Nat :=
  let q := num / den
  let r := num % den
  if r = 0 then [q]
  else if 2 * r < den then [q, q + 1]
  else if den < 2 * r then [q + 1, q]
  else match tie with
    | .up => [q + 1, q]
    | .even => if q % 2 = 0 then [q, q + 1] else [q + 1, q]

/-- The decimal reads back to the number without its sign. -/
def readsBack (x : Binary64) (d : Decimal) : Bool :=
  ofDecimal false d == x.abs

/-- The nearest decimal with the given number of digits that reads back, if there is one. -/
def atPlaces? (tie : Tie) (x : Binary64) (places : Nat) : Option Decimal :=
  let (num, den) := x.ratio
  let g := floorLog10 num den - places + 1
  let (n, d) := inTens num den g
  ((neighbours tie n d).map (⟨·, g⟩)).find? x.readsBack

/-- The decimal that equals a finite number. -/
def exactDecimal (x : Binary64) : Decimal :=
  if 0 ≤ x.power then ⟨x.significand * Nat.pow 2 x.power.toNat, 0⟩
  else ⟨x.significand * Nat.pow 5 (-x.power).toNat, x.power⟩

/-- The shortest decimal of a finite number: seventeen digits are always enough. -/
def shortest (tie : Tie) (x : Binary64) : Decimal :=
  if x.significand = 0 then ⟨0, 0⟩
  else ((List.range 17).findSome? fun k => x.atPlaces? tie (k + 1)).getD x.exactDecimal

/-- A sign and a text, or the name of what is not finite. -/
def signed (x : Binary64) (digits : List Char) : String :=
  if x.isNaN then "NaN"
  else String.ofList
    ((if x.isNegative then ['-'] else []) ++ if x.isFinite then digits else "inf".toList)

/-- Literals are positional from 0.0001 up to sixteen digits before the point, always show that
they are no integers, and carry no plus sign. -/
def literalLayout : Decimal.Layout :=
  ⟨some (-4), some 15, true, false, false, 1⟩

/-- Rows show numbers positionally, whatever their size, and whole numbers like integers. -/
def rowLayout : Decimal.Layout :=
  ⟨none, none, false, false, false, 1⟩

/-- Documents write literals, but are positional from 0.00001 on, and large exponents have a plus
sign. -/
def documentLayout : Decimal.Layout :=
  ⟨some (-5), some 15, true, false, true, 1⟩

/-- The text of a number as a literal. -/
def literalText (x : Binary64) : String :=
  x.signed ((x.shortest .up).write literalLayout)

/-- The text of a number in a row. -/
def rowText (x : Binary64) : String :=
  x.signed ((x.shortest .up).write rowLayout)

/-- The text of a finite number in a document. -/
def documentText (x : Binary64) : String :=
  x.signed ((x.shortest .even).write documentLayout)

end StoreBridge.Binary64
