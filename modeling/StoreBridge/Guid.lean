import StoreBridge.Text.Digit
import StoreBridge.Text.Letter

/-! Globally unique identifiers, sixteen octets. They are written as 32 hexadecimal digits in five
groups, and read with or without the hyphens, in braces, or as a name of the `urn:uuid:` space,
which is written in any case. -/
namespace StoreBridge
open Text

/-- A globally unique identifier. -/
structure Guid where
  octets : List UInt8
  length_eq : octets.length = 16
deriving DecidableEq

namespace Guid

/-- The two digits of an octet. -/
def octetDigits (digit : Nat → Char) (b : UInt8) : List Char :=
  [digit (b.toNat / 16), digit (b.toNat % 16)]

/-- The digits of octets. -/
def digits (octets : List UInt8) : List Char :=
  octets.flatMap (octetDigits lowerHexDigit)

/-- The text: eight, four, four, four and twelve digits with hyphens between. -/
def text (g : Guid) : String :=
  let part (start count : Nat) := digits ((g.octets.drop start).take count)
  String.ofList (part 0 4 ++ '-' :: part 4 2 ++ '-' :: part 6 2 ++ '-' :: part 8 2 ++
    '-' :: part 10 6)

/-- The octets that pairs of hexadecimal digits write. -/
def readOctets? : List Char → Option (List UInt8)
  | [] => some []
  | [_] => none
  | a :: b :: rest => do
    let high ← hexValue? a
    let low ← hexValue? b
    return UInt8.ofNat (16 * high + low) :: (← readOctets? rest)

/-- The identifier that 32 digits write. -/
def ofDigits? (cs : List Char) : Option Guid := do
  let octets ← readOctets? cs
  if h : octets.length = 16 then some ⟨octets, h⟩ else none

/-- The digits of a text with hyphens behind the eighth, twelfth, sixteenth and twentieth. -/
def withoutHyphens? (cs : List Char) : Option (List Char) :=
  if cs.length = 36 ∧ [8, 13, 18, 23].all (cs[·]? == some '-') then
    some (cs.take 8 ++ (cs.drop 9).take 4 ++ (cs.drop 14).take 4 ++ (cs.drop 19).take 4 ++
      cs.drop 24)
  else none

/-- The identifier that a text with hyphens writes. -/
def ofHyphenated? (cs : List Char) : Option Guid := do
  ofDigits? (← withoutHyphens? cs)

/-- What comes in front of an identifier as a name. -/
def nameSpace : List Char := "urn:uuid:".toList

/-- The identifier that a text writes, in any of its spellings. -/
def ofText? (s : String) : Option Guid :=
  let cs := s.toList
  match cs.length with
  | 32 => ofDigits? cs
  | 36 => ofHyphenated? cs
  | 38 =>
    if cs.head? = some '\x7b' ∧ cs.getLast? = some '\x7d' then
      ofHyphenated? ((cs.drop 1).take 36)
    else none
  | 45 =>
    if (cs.take 9).map Char.toLower = nameSpace then
      ofHyphenated? (cs.drop 9)
    else none
  | _ => none

end Guid
end StoreBridge
