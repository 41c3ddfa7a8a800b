import StoreBridge.Text.Digit

/-! The smallest parts of TOML notation: blanks, comments, the ends of lines, bare words, and texts
in quotes. A text in single quotes stands as it is written; one in double quotes may hold escapes. A
quote written three times opens a text of many lines, and a line break right behind it is left out.
-/
namespace StoreBridge.Document.Toml
open Text

/-- Takes a part off the front of a text. -/
abbrev Reader (α : Type) := List Char → Option (α × List Char)

/-- Blanks inside a line. -/
def isBlankMark (c : Char) : Bool :=
  c == ' ' || c == '\t'

/-- What is left after the blanks in front. -/
def skip (cs : List Char) : List Char :=
  cs.dropWhile isBlankMark

/-- What is left after a mark. -/
def mark? (m : Char) : List Char → Option (List Char)
  | c :: rest => if c = m then some rest else none
  | [] => none

/-- The characters of comments: no control characters but the tab. -/
def isCommentChar (c : Char) : Bool :=
  c == '\t' || decide (32 ≤ c.toNat)

/-- The characters that stand for themselves inside quotes. -/
def isTextChar (c : Char) : Bool :=
  isCommentChar c && c != '\x7f'

/-- What is left after the end of a line, which may be the end of the text. -/
def lineEnd? : List Char → Option (List Char)
  | [] => some []
  | c :: rest => if c = '\n' then some rest else none

/-- What is left after a comment and the end of its line. -/
def comment? (cs : List Char) : Option (List Char) :=
  (mark? '#' cs).bind fun rest => lineEnd? (rest.dropWhile isCommentChar)

/-- What is left of a line after its contents: nothing but blanks and a comment. -/
def restOfLine? (cs : List Char) : Option (List Char) :=
  let cs := skip cs
  if cs.head? = some '#' then comment? cs else lineEnd? cs

/-- What is left after blanks, line breaks and comments, in at most so many steps. A comment that is
not well formed is left. -/
def skipLines : (steps : Nat) → List Char → List Char
  | 0, cs => cs
  | steps + 1, cs =>
    match skip cs with
    | '\n' :: rest => skipLines steps rest
    | cs =>
      match comment? cs with
      | some rest => skipLines steps rest
      | none => cs

/-- What is left after blanks, line breaks and comments. -/
def skipSpace (cs : List Char) : List Char :=
  skipLines (cs.length + 1) cs

/-- The characters of bare words. -/
def isWordChar (c : Char) : Bool :=
  isDigit c || ('a' ≤ c && c ≤ 'z') || ('A' ≤ c && c ≤ 'Z') || c == '-' || c == '_'

/-- A bare word. -/
def word? : Reader (List Char) := fun cs =>
  let word := cs.takeWhile isWordChar
  if word.isEmpty then none else some (word, cs.dropWhile isWordChar)

/-- The character with a number that is written in so many hexadecimal digits. -/
def numbered? (count : Nat) (cs : List Char) : Option (Char × List Char) := do
  let ds := cs.take count
  let n ← hexNumber? 0 ds
  if ds.length = count ∧ n.isValidChar then return (Char.ofNat n, cs.drop count) else none

/-- What is left after a line break that is escaped: the blanks around it and further line breaks go
with it. -/
def continuation? (cs : List Char) : Option (List Char) :=
  (mark? '\n' (skip cs)).map fun rest => rest.dropWhile fun c => isBlankMark c || c == '\n'

/-- What is written after a backslash. -/
def escape? (manyLines : Bool) : Reader (List Char)
  | '"' :: rest => some (['"'], rest)
  | '\\' :: rest => some (['\\'], rest)
  | 'b' :: rest => some (['\x08'], rest)
  | 'f' :: rest => some (['\x0c'], rest)
  | 'n' :: rest => some (['\n'], rest)
  | 'r' :: rest => some (['\r'], rest)
  | 't' :: rest => some (['\t'], rest)
  | 'u' :: rest => (numbered? 4 rest).map fun (c, rest) => ([c], rest)
  | 'U' :: rest => (numbered? 8 rest).map fun (c, rest) => ([c], rest)
  | cs => if manyLines then (continuation? cs).map fun rest => ([], rest) else none

/-- The quotes that close a text, and those directly in front of them that belong to it: a text of
many lines may end in up to two. -/
def closing? (quote : Char) (manyLines : Bool) (cs : List Char) :
    Option (List Char × List Char) :=
  let run := (cs.takeWhile (· == quote)).length
  if manyLines then
    if run < 3 then none
    else
      let own := min (run - 3) 2
      some (List.replicate own quote, cs.drop (3 + own))
  else if run = 0 then none
  else some ([], cs.drop 1)

/-- The characters up to the closing quotes, in at most so many steps. -/
def characters? (quote : Char) (manyLines : Bool) : (steps : Nat) → Reader (List Char)
  | 0, _ => none
  | steps + 1, cs =>
    match closing? quote manyLines cs with
    | some (own, rest) => some (own, rest)
    | none =>
      match cs with
      | [] => none
      | c :: rest =>
        if c = '\\' ∧ quote = '"' then do
          let (first, rest) ← escape? manyLines rest
          let (others, rest) ← characters? quote manyLines steps rest
          return (first ++ others, rest)
        else if isTextChar c || (manyLines && c == '\n') then do
          let (others, rest) ← characters? quote manyLines steps rest
          return (c :: others, rest)
        else none

/-- A text in quotes, and whether it may have many lines. The opening quote has been read. -/
def quoted? (quote : Char) : Reader (String × Bool) := fun cs => do
  let (manyLines, cs) : Bool × List Char := match cs with
    | a :: b :: rest =>
      if a = quote ∧ b = quote then
        (true, match rest with
          | '\n' :: rest => rest
          | rest => rest)
      else (false, cs)
    | cs => (false, cs)
  let (inner, rest) ← characters? quote manyLines (cs.length + 1) cs
  return ((String.ofList inner, manyLines), rest)

/-- A part of a key: a bare word, or a text in quotes on one line. -/
def keyPart? : Reader String := fun cs =>
  match cs with
  | [] => none
  | c :: rest =>
    if c = '"' ∨ c = '\'' then do
      let ((name, manyLines), rest) ← quoted? c rest
      if manyLines then none else return (name, rest)
    else (word? cs).map fun (word, rest) => (String.ofList word, rest)

/-- The parts of a key after the first, in at most so many steps. -/
def keyParts? : (steps : Nat) → Reader (List String)
  | 0, _ => none
  | steps + 1, cs =>
    match skip cs with
    | '.' :: rest => do
      let (part, rest) ← keyPart? (skip rest)
      let (parts, rest) ← keyParts? steps rest
      return (part :: parts, rest)
    | cs => some ([], cs)

/-- A key of one part or more with points between, and the blanks behind it. -/
def key? : Reader (List String) := fun cs => do
  let (part, rest) ← keyPart? cs
  let (parts, rest) ← keyParts? (rest.length + 1) rest
  return (part :: parts, rest)

end StoreBridge.Document.Toml
