import StoreBridge.Sql.Token
import StoreBridge.Store.Affinity

/-! Declared types of columns. A type is kept as it is written, but a type that is known by its name
is kept in capitals, quotes around it are taken off, and the words that announce a computed value do
not belong to it. -/
namespace StoreBridge.Store
open Sql Text

/-- A declared type: how it is reported, which values it prefers, and how wide they are. -/
structure DeclaredType where
  reported : String
  affinity : Affinity
  width : Nat
deriving DecidableEq

namespace DeclaredType

/-- The types that are known by their names. -/
def standard : List DeclaredType :=
  [⟨"ANY", .numeric, 1⟩, ⟨"BLOB", .any, 5⟩, ⟨"INT", .integer, 1⟩, ⟨"INTEGER", .integer, 1⟩,
    ⟨"REAL", .real, 1⟩, ⟨"TEXT", .text, 5⟩]

/-- What is left of a text without a word at its end and the blanks in front of that. -/
def withoutLast? (word : String) (cs : List Char) : Option (List Char) :=
  let n := cs.length - word.length
  if (cs.drop n).map Char.toUpper = word.toList then
    some ((cs.take n).reverse.dropWhile isWideSpace).reverse
  else none

/-- A type without the words that announce a computed value. -/
def withoutAnnouncement (cs : List Char) : List Char :=
  if (String.ofList cs).utf8ByteSize < 16 then cs
  else match withoutLast? "ALWAYS" cs with
    | none => cs
    | some cs => (withoutLast? "GENERATED" cs).getD cs

/-- The characters that quoted names begin with. -/
def isQuote (c : Char) : Bool :=
  c == '"' || c == '\'' || c == '[' || c == '\x60'

/-- A type that begins with a quote and has no other inside, without its first and last
character. -/
def withoutEnds : List Char → List Char
  | c :: rest =>
    if isQuote c && !rest.isEmpty && !rest.dropLast.any isQuote then rest.dropLast else c :: rest
  | [] => []

/-- A type that begins with a name in quotes is that name. -/
def withoutQuotes : List Char → List Char
  | c :: rest =>
    if isQuote c then ((unquote? (if c = '[' then ']' else c) rest).map (·.1)).getD rest
    else c :: rest
  | [] => []

/-- What follows the last occurrence of a word. -/
def behindLast? (word : List Char) : List Char → Option (List Char)
  | [] => none
  | c :: cs =>
    (behindLast? word cs).or
      (if word.isPrefixOf (c :: cs) then some ((c :: cs).drop word.length) else none)

/-- The width that a number in a type gives its values; none if there is no number. -/
def writtenWidth (cs : List Char) : Nat :=
  let n := decimalValue 0 ((cs.dropWhile (!isDigit ·)).takeWhile isDigit)
  if n < 2147483648 then n else 0

/-- The width of the values of a type that is not known by its name. -/
def widthOf (type : String) (affinity : Affinity) : Nat :=
  let cs := (upper type).toList
  let chars := behindLast? "CHAR".toList cs
  let blob := (behindLast? "BLOB".toList cs).filter fun rest => rest.head? == some '('
  let octets := match affinity with
    | .text => (chars.map writtenWidth).getD 16
    | .any => (blob.map writtenWidth).getD 16
    | _ => 0
  min (octets / 4 + 1) 255

/-- The type that is written. -/
def ofWritten (written : String) : DeclaredType :=
  let cs := withoutAnnouncement written.toList
  let isLong := 3 ≤ (String.ofList cs).utf8ByteSize
  let name := String.ofList (if isLong then withoutEnds cs else cs)
  match if isLong then standard.find? fun t => t.reported == upper name else none with
  | some t => t
  | none =>
    if name.isEmpty then ⟨"", .any, 1⟩
    else
      let type := String.ofList (withoutQuotes name.toList)
      let affinity := Affinity.ofType type
      ⟨type, affinity, widthOf type affinity⟩

end DeclaredType
end StoreBridge.Store
