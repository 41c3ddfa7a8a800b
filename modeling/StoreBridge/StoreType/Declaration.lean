import StoreBridge.StoreType
import StoreBridge.Failure
import StoreBridge.Text.Split

/-! Declared types, as columns carry them: a name of one or more words, and perhaps one or two
arguments in parentheses. Blanks may stand around each part. A declaration is first taken apart and
then understood: what the arguments mean depends on the name. -/
namespace StoreBridge
open Text

/-- A declared type taken apart: its name, and its arguments as they are written. -/
structure Declaration where
  name : List Char
  arguments : List (List Char)
deriving DecidableEq

namespace Declaration

/-- A name begins with a letter or an underscore. -/
def isNameStart (c : Char) : Bool :=
  isFoldedLetter c || c == '_'

/-- It goes on with letters, digits, underscores and spaces. -/
def isNamePart (c : Char) : Bool :=
  isNameStart c || isDigit c || c == ' '

/-- The word for an unbounded length, in any case. -/
def isMax (cs : List Char) : Bool :=
  cs.map Char.toLower == ['m', 'a', 'x']

/-- A first argument is a string of digits of any script, or the word for an unbounded length. The
rest follows it. -/
def firstArgument? (cs : List Char) : Option (List Char × List Char) :=
  if isMax (cs.take 3) then some (cs.take 3, cs.drop 3)
  else if (cs.takeWhile isScriptDigit).isEmpty then none
  else some (cs.takeWhile isScriptDigit, cs.dropWhile isScriptDigit)

/-- A second argument is a string of digits. -/
def secondArgument? (cs : List Char) : Option (List Char × List Char) :=
  if (cs.takeWhile isScriptDigit).isEmpty then none
  else some (cs.takeWhile isScriptDigit, cs.dropWhile isScriptDigit)

/-- The arguments, from behind the opening parenthesis to the closing one, which ends the text. -/
def arguments? (cs : List Char) : Option (List (List Char)) := do
  let (first, rest) ← firstArgument? (trimLeft cs)
  match trimLeft rest with
  | [')'] => some [first]
  | ',' :: rest =>
    let (second, rest) ← secondArgument? (trimLeft rest)
    if trimLeft rest = [')'] then some [first, second] else none
  | _ => none

/-- The parts of a text without blanks at its ends. -/
def ofTrimmed? (cs : List Char) : Option Declaration :=
  let name := cs.takeWhile isNamePart
  if name.head?.any isNameStart then
    match trimLeft (cs.dropWhile isNamePart) with
    | [] => some ⟨name, []⟩
    | '(' :: rest => (arguments? rest).map (⟨name, ·⟩)
    | _ => none
  else none

/-- The parts of a declared type, if it is one. -/
def read? (declared : String) : Option Declaration :=
  ofTrimmed? (trimChars declared.toList)

/-- The words of the name in small letters, with a single space between each two. -/
def plainName (d : Declaration) : String :=
  lower (joined " " ((words d.name).map String.ofList))

end Declaration

namespace StoreType

/-- A single argument of these types is a precision, not a length. -/
def decimalNames : List String :=
  ["decimal", "extdecimal", "numeric"]

/-- The number that an argument writes, or the failure of one that writes none in range. -/
def argument {α : Type} (greatest : Nat) (narrow : Nat → α) (declared : String)
    (digits : List Char) : Except Failure α :=
  match readUnsigned? greatest digits with
  | some n => .ok (narrow n)
  | none => .error (.typeArgumentOutOfRange (String.ofList digits) declared)

/-- The facets that the arguments of a type state. -/
def statedFacets (declared name : String) : List (List Char) → Except Failure Facets
  | first :: second :: _ => do
    let precision ← argument 255 UInt8.ofNat declared first
    let scale ← argument 255 UInt8.ofNat declared second
    return { precision := some (.bounded precision), scale := some (.bounded scale) }
  | [first] =>
    if decimalNames.contains name then do
      return { precision := some (.bounded (← argument 255 UInt8.ofNat declared first)) }
    else if Declaration.isMax first then .ok { maxLength := some .unbounded }
    else do
      return { maxLength := some (.bounded (← argument 4294967295 UInt32.ofNat declared first)) }
  | [] => .ok {}

/-- The store type that a declared type means. -/
def ofDeclared (declared : String) : Except Failure StoreType :=
  match Declaration.read? declared with
  | none => .error (.unreadableDeclaration declared)
  | some d => do return ⟨d.plainName, ← statedFacets declared d.plainName d.arguments⟩

end StoreType
end StoreBridge
