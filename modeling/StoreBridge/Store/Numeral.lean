import StoreBridge.Binary64.TwiceRounded
import StoreBridge.Integer64
import StoreBridge.Sql.Datum
import StoreBridge.Sql.Token

/-! Numbers in texts. A text may be a number as a whole, with blanks around it, or begin with one.
What begins with no number counts as zero where a number is needed. -/
namespace StoreBridge.Store
open Sql Text

/-- The parts of the number that a text begins with, and what is left behind it. -/
structure Numeral where
  isNegative : Bool
  whole : List Char
  /-- The digits behind the point, if there is a point. -/
  fraction : Option (List Char)
  /-- The exponent; none behind its mark if there are no digits. -/
  exponent : Option (Option Int)
  rest : List Char

namespace Numeral

/-- The sign in front of a number, and the rest. -/
def sign : List Char → Bool × List Char
  | '-' :: rest => (true, rest)
  | '+' :: rest => (false, rest)
  | cs => (false, cs)

/-- The exponent behind a number, and the rest. -/
def exponentOf : List Char → Option (Option Int) × List Char
  | [] => (none, [])
  | c :: rest =>
    if c = 'e' ∨ c = 'E' then
      let (negative, rest) := sign rest
      let ds := rest.takeWhile isDigit
      let n : Int := (Decimal.boundedExponent ds : Nat)
      (some (if ds.isEmpty then none else some (if negative then -n else n)),
        rest.dropWhile isDigit)
    else (none, c :: rest)

/-- The number that characters begin with, behind blanks. -/
def ofChars (cs : List Char) : Numeral :=
  let (negative, rest) := sign (cs.dropWhile isWideSpace)
  let whole := rest.takeWhile isDigit
  let (fraction, rest) : Option (List Char) × List Char := match rest.dropWhile isDigit with
    | '.' :: rest => (some (rest.takeWhile isDigit), rest.dropWhile isDigit)
    | rest => (none, rest)
  let (exponent, rest) := exponentOf rest
  ⟨negative, whole, fraction, exponent, rest⟩

/-- There are digits. -/
def hasDigits (n : Numeral) : Bool :=
  !(n.whole.isEmpty && (n.fraction.getD []).isEmpty)

/-- There is neither point nor exponent. -/
def isWhole (n : Numeral) : Bool :=
  n.fraction.isNone && n.exponent.isNone

/-- The text is a number as a whole. -/
def isComplete (n : Numeral) : Bool :=
  n.hasDigits && n.exponent != some none && n.rest.all isWideSpace

/-- The number as a real one. -/
def real (n : Numeral) : Binary64 :=
  .read n.isNegative (.ofDigits n.whole (n.fraction.getD []) ((n.exponent.join).getD 0))

/-- The integer in front of point and exponent. -/
def integer (n : Numeral) : Int :=
  if n.isNegative then -(decimalValue 0 n.whole : Nat) else (decimalValue 0 n.whole : Nat)

/-- The integer in front of point and exponent, or the nearest one of 64 bits. -/
def bounded (n : Numeral) : Int64 :=
  (integer64? n.integer).getD
    (if n.isNegative then -9223372036854775808 else 9223372036854775807)

/-- The number of a text that is one as a whole: an integer if it has neither point nor exponent and
is in range, and a real number otherwise. -/
def value (n : Numeral) : Datum :=
  if n.isWhole then ((integer64? n.integer).map Datum.integer).getD (.real n.real)
  else .real n.real

/-- The number that a text begins with counts as a real one: it has a point, with or without an
exponent behind it, or a good exponent. -/
def isRealInFront (n : Numeral) : Bool :=
  n.hasDigits && !n.isWhole &&
    ((n.fraction.isSome && n.exponent.isSome) || n.exponent != some none)

/-- What a text counts for in a calculation. -/
def operand (n : Numeral) : Datum :=
  if n.isComplete then n.value
  else if n.isRealInFront then .real n.real
  else ((integer64? n.integer).map Datum.integer).getD (.real n.real)

end Numeral

/-- The numeral at the front of a text. -/
def numeral (s : String) : Numeral :=
  .ofChars s.toList

/-- The number that a text as a whole writes. -/
def numberOf? (s : String) : Option Datum :=
  if (numeral s).isComplete then some (numeral s).value else none

/-- The characters of octets, one each: enough to read numbers in them. -/
def octetChars (octets : List UInt8) : List Char :=
  octets.map fun b => Char.ofNat b.toNat

/-- The integer that a real number equals, if it is one strictly between the bounds of 64 bits. -/
def wholeOf? (x : Binary64) : Option Int64 := do
  let n ← x.toInt?
  if -9223372036854775808 < n ∧ n < 9223372036854775807 then integer64? n else none

end StoreBridge.Store
