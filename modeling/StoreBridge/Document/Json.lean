import StoreBridge.Binary64.Shortest
import StoreBridge.Document

/-! Documents in JSON notation, written on one line, or on many with two blanks for each level.
Empty lists and objects are written without anything between their brackets; a number that is not
finite has no notation and is written as null. -/
namespace StoreBridge.Document.Json
open Text

/-- A character inside a text. -/
def escaped (c : Char) : List Char :=
  match c with
  | '"' => ['\\', '"']
  | '\\' => ['\\', '\\']
  | '\n' => ['\\', 'n']
  | '\r' => ['\\', 'r']
  | '\t' => ['\\', 't']
  | '\x08' => ['\\', 'b']
  | '\x0c' => ['\\', 'f']
  | c =>
    if c.toNat < 32 then
      ['\\', 'u', '0', '0', lowerHexDigit (c.toNat / 16), lowerHexDigit (c.toNat % 16)]
    else [c]

/-- A text in quotes. -/
def quoted (s : String) : List Char :=
  '"' :: s.toList.flatMap escaped ++ ['"']

/-- A number that is not whole by notation. -/
def number (x : Binary64) : List Char :=
  if x.isFinite then x.documentText.toList else "null".toList

/-- What holds a document on one line, or on many. -/
structure Style where
  /-- What stands between a name and its value. -/
  colon : List Char
  /-- What stands in front of an item at some depth. -/
  lineStart : Nat → List Char

/-- On one line, without blanks. -/
def oneLine : Style where
  colon := [':']
  lineStart _ := []

/-- On many lines. -/
def manyLines : Style where
  colon := [':', ' ']
  lineStart depth := '\n' :: List.replicate (2 * depth) ' '

mutual

/-- The characters of a document at some depth. -/
def chars (style : Style) (depth : Nat) : Document → List Char
  | null => "null".toList
  | boolean b => (if b then "true" else "false").toList
  | integer n => Text.integer n
  | real x => number x
  | text s => quoted s
  | moment s => quoted s
  | list [] => ['[', ']']
  | list (d :: rest) =>
    '[' :: style.lineStart (depth + 1) ++ chars style (depth + 1) d ++
      itemChars style (depth + 1) rest ++ style.lineStart depth ++ [']']
  | object members => objectChars style depth members
  | assembled members => objectChars style depth members

/-- The characters of an object with these members. -/
def objectChars (style : Style) (depth : Nat) : List (String × Document) → List Char
  | [] => ['\x7b', '\x7d']
  | (name, d) :: rest =>
    '\x7b' :: style.lineStart (depth + 1) ++ quoted name ++ style.colon ++
      chars style (depth + 1) d ++ memberChars style (depth + 1) rest ++
      style.lineStart depth ++ ['\x7d']

/-- The items after the first. -/
def itemChars (style : Style) (depth : Nat) : List Document → List Char
  | [] => []
  | d :: rest =>
    ',' :: style.lineStart depth ++ chars style depth d ++ itemChars style depth rest

/-- The members after the first. -/
def memberChars (style : Style) (depth : Nat) : List (String × Document) → List Char
  | [] => []
  | (name, d) :: rest =>
    ',' :: style.lineStart depth ++ quoted name ++ style.colon ++ chars style depth d ++
      memberChars style depth rest

end

/-- The text of a document on one line. -/
def compact (d : Document) : String :=
  String.ofList (chars oneLine 0 d)

/-- The text of a document on many lines. -/
def pretty (d : Document) : String :=
  String.ofList (chars manyLines 0 d)

end StoreBridge.Document.Json
