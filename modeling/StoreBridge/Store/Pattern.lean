import StoreBridge.Text.Letter

/-! Patterns of texts. A pattern stands for single characters, any character, any of some, and any
number of any characters. There are two ways of writing one. -/
namespace StoreBridge.Store
open Text

/-- A part of a pattern. -/
inductive PatternPart where
  | character (c : Char)
  | anyCharacter
  | anyText
  /-- One character in one of some ranges, or in none of them. -/
  | oneOf (isInverted : Bool) (ranges : List (Char × Char))
  /-- What nothing fits. -/
  | nothing
deriving DecidableEq

namespace PatternPart

/-- The pattern behind `LIKE`, where a character may take the meaning from the one behind it. -/
def ofLike (escape : Option Char) : List Char → List PatternPart
  | [] => []
  | c :: rest =>
    if some c = escape then
      match rest with
      | [] => [nothing]
      | d :: rest => character d :: ofLike escape rest
    else (if c = '%' then anyText else if c = '_' then anyCharacter else character c) ::
      ofLike escape rest

/-- The ranges that characters in brackets are. A range needs a character in front of its hyphen and
one behind it. -/
def ranges : (before : Option Char) → List Char → List (Char × Char)
  | _, [] => []
  | some b, '-' :: d :: rest => (b, d) :: ranges none rest
  | _, c :: rest => (c, c) :: ranges (some c) rest

/-- The characters in brackets, and what is left behind them. A closing bracket in front is one of
the characters. -/
def brackets? (cs : List Char) : Option (PatternPart × List Char) :=
  let (inverted, cs) : Bool × List Char := match cs with
    | '^' :: rest => (true, rest)
    | cs => (false, cs)
  let (first, cs) : List (Char × Char) × List Char := match cs with
    | ']' :: rest => ([(']', ']')], rest)
    | cs => ([], cs)
  match cs.dropWhile (· != ']') with
  | _ :: rest => some (oneOf inverted (first ++ ranges none (cs.takeWhile (· != ']'))), rest)
  | [] => none

/-- The pattern behind `GLOB`, in at most so many steps. -/
def ofGlob : (steps : Nat) → List Char → List PatternPart
  | 0, _ => []
  | _ + 1, [] => []
  | steps + 1, c :: rest =>
    if c = '*' then anyText :: ofGlob steps rest
    else if c = '?' then anyCharacter :: ofGlob steps rest
    else if c = '[' then
      match brackets? rest with
      | some (part, rest) => part :: ofGlob steps rest
      | none => [nothing]
    else character c :: ofGlob steps rest

/-- A character fits a part that stands for one. -/
def fits (ignoresCase : Bool) (d : Char) : PatternPart → Bool
  | character c => c == d || (ignoresCase && c.toLower == d.toLower)
  | anyCharacter => true
  | oneOf inverted ranges => (ranges.any fun (a, b) => a ≤ d && d ≤ b) != inverted
  | anyText | nothing => false

/-- Some end of a text passes a test. -/
def anyEnd (test : List Char → Bool) : List Char → Bool
  | [] => test []
  | c :: cs => test (c :: cs) || anyEnd test cs

/-- A text fits a pattern. -/
def fit (ignoresCase : Bool) : List PatternPart → List Char → Bool
  | [], cs => cs.isEmpty
  | anyText :: parts, cs => anyEnd (fit ignoresCase parts) cs
  | part :: parts, cs =>
    match cs with
    | [] => false
    | d :: cs => part.fits ignoresCase d && fit ignoresCase parts cs

end PatternPart

/-- The text up to a null character. -/
def upToNull (s : String) : List Char :=
  s.toList.takeWhile (· != '\x00')

/-- A text fits a pattern in which letters stand for themselves in either case. -/
def fitsLike (pattern : String) (escape : Option Char) (s : String) : Bool :=
  PatternPart.fit true (PatternPart.ofLike escape (upToNull pattern)) (upToNull s)

/-- A text fits a pattern in which letters stand for themselves only. -/
def fitsGlob (pattern s : String) : Bool :=
  PatternPart.fit false (PatternPart.ofGlob (pattern.length + 1) (upToNull pattern)) (upToNull s)

end StoreBridge.Store
