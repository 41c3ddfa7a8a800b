import StoreBridge.Text.Letter

/-! Collations: the ways in which texts are compared. -/
namespace StoreBridge.Store
open Text

/-- The collations that the store knows. -/
inductive Collation where
  | binary
  /-- Latin letters are equal in either case. -/
  | caseless
  /-- Spaces at the end do not count. -/
  | trimmed
deriving DecidableEq

namespace Collation

/-- The collation with a name, in any case. -/
def ofName? (name : String) : Option Collation :=
  [("BINARY", binary), ("NOCASE", caseless), ("RTRIM", trimmed)].lookup (upper name)

/-- The name of a collation. -/
def name : Collation → String
  | binary => "BINARY"
  | caseless => "NOCASE"
  | trimmed => "RTRIM"

/-- The characters that a caseless comparison goes through. A null character ends it. -/
def caselessChars (s : String) : List Char :=
  (s.toList.takeWhile (· != '\x00')).map Char.toLower

/-- A text without spaces at its end. -/
def withoutSpaces (s : String) : List Char :=
  (s.toList.reverse.dropWhile (· == ' ')).reverse

/-- The order of two texts. -/
def compare (c : Collation) (s t : String) : Ordering :=
  match c with
  | binary => compareOfLessAndEq s.toList t.toList
  | caseless =>
    (compareOfLessAndEq (caselessChars s) (caselessChars t)).then
      (compareOfLessAndEq s.utf8ByteSize t.utf8ByteSize)
  | trimmed => compareOfLessAndEq (withoutSpaces s) (withoutSpaces t)

end Collation
end StoreBridge.Store
