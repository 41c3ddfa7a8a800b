import StoreBridge.Sql.Quoted
import StoreBridge.Text.Digit
import StoreBridge.Text.Letter

/-! The tokens of statements. A text is cut into words, names and texts in quotes, numbers, blobs,
variables and marks; blanks and comments may stand between any two of them. Each token keeps the gap
in front of it, so that the text of a part of a statement can be had from its tokens. -/
namespace StoreBridge.Sql
open Text

/-- The blanks that a gap begins with. -/
def isSpace (c : Char) : Bool :=
  c == ' ' || c == '\t' || c == '\n' || c == '\r' || c == '\x0c'

/-- The blanks that a gap goes on with, and that numbers in texts have around them. -/
def isWideSpace (c : Char) : Bool :=
  isSpace c || c == '\x0b'

/-- The characters of words, and of the names of placeholders. -/
def isWordChar (c : Char) : Bool :=
  isLetter c || isDigit c || c == '_' || c == '$' || decide (128 ≤ c.toNat)

/-- The characters that words begin with. -/
def isWordStart (c : Char) : Bool :=
  isLetter c || c == '_' || decide (128 ≤ c.toNat)

/-- A hexadecimal digit. -/
def isHexDigit (c : Char) : Bool :=
  (hexValue? c).isSome

/-- The kinds of tokens. -/
inductive Token.Kind where
  | word
  /-- A name between double quotes, grave accents or brackets. -/
  | name
  /-- A text between single quotes. -/
  | text
  | natural
  | hexadecimal
  | real
  | blob
  | variable
  | mark
  /-- What no token can begin with. -/
  | illegal
  /-- The end of the text. -/
  | stop
deriving DecidableEq

/-- A token: the gap in front of it, and its characters. -/
structure Token where
  gap : List Char
  chars : List Char
  kind : Token.Kind
deriving DecidableEq

namespace Token

/-- What is left after a comment of many lines. -/
def afterComment : List Char → List Char
  | '*' :: '/' :: rest => rest
  | _ :: rest => afterComment rest
  | [] => []

/-- What is left after a gap, in at most so many steps. A comment that has nothing behind its
opening is none. -/
def afterGap : (steps : Nat) → List Char → List Char
  | 0, cs => cs
  | _ + 1, [] => []
  | steps + 1, c :: rest =>
    if isSpace c then afterGap steps (rest.dropWhile isWideSpace)
    else if c = '\ufeff' then afterGap steps rest
    else match c, rest with
      | '-', '-' :: rest => afterGap steps (rest.dropWhile (· != '\n'))
      | '/', '*' :: d :: rest => afterGap steps (afterComment (d :: rest))
      | _, _ => c :: rest

/-- What is left after an exponent, if there is one. -/
def afterExponent? : List Char → Option (List Char)
  | c :: rest =>
    let digits (cs : List Char) : Option (List Char) :=
      if cs.head?.any isDigit then some (cs.dropWhile isDigit) else none
    if c = 'e' ∨ c = 'E' then
      match rest with
      | '+' :: rest => digits rest
      | '-' :: rest => digits rest
      | rest => digits rest
    else none
  | [] => none

/-- The kind of a number, and what is left after it. A number ends where no word goes on. -/
def number (cs : List Char) : Kind × List Char :=
  let (kind, rest) : Kind × List Char := match cs.dropWhile isDigit with
    | '.' :: rest => (.real, rest.dropWhile isDigit)
    | rest => (.natural, rest)
  let (kind, rest) : Kind × List Char := match afterExponent? rest with
    | some rest => (.real, rest)
    | none => (kind, rest)
  (if rest.head?.any isWordChar then .illegal else kind, rest)

/-- The kind of a number that may be a hexadecimal one, and what is left after it. -/
def anyNumber : List Char → Kind × List Char
  | '0' :: x :: d :: rest =>
    if (x = 'x' ∨ x = 'X') ∧ isHexDigit d then (.hexadecimal, rest.dropWhile isHexDigit)
    else number ('0' :: x :: d :: rest)
  | cs => number cs

/-- What is left after the name of a variable: characters of words, colons in pairs, and a part in
parentheses at the end. -/
def afterVariable? (isNamed : Bool) : List Char → Option (List Char)
  | [] => if isNamed then some [] else none
  | ':' :: ':' :: rest => afterVariable? isNamed rest
  | c :: rest =>
    if isWordChar c then afterVariable? true rest
    else if !isNamed then none
    else if c = '(' then
      match rest.dropWhile fun d => !isWideSpace d && d != ')' with
      | ')' :: rest => some rest
      | _ => none
    else some (c :: rest)

/-- What is left after a blob, behind its first quote. -/
def afterBlob? (cs : List Char) : Option (List Char) :=
  match cs.dropWhile isHexDigit with
  | '\'' :: rest => if (cs.takeWhile isHexDigit).length % 2 = 0 then some rest else none
  | _ => none

/-- The marks, of which one that another begins with stands behind it. -/
def marks : List String :=
  ["->>", "->", "==", "<=", "<>", "<<", ">=", ">>", "!=", "||", "(", ")", ";", ",", ".", "+", "-",
    "*", "/", "%", "=", "<", ">", "|", "&", "~"]

/-- What is left after a mark. -/
def afterMark? (cs : List Char) : Option (List Char) :=
  (marks.find? fun m => m.toList.isPrefixOf cs).map fun m => cs.drop m.length

/-- A kind with what is left, if there is something; else what follows is no token. -/
def orIllegal (kind : Kind) (rest : Option (List Char)) : Kind × List Char :=
  match rest with
  | some rest => (kind, rest)
  | none => (.illegal, [])

/-- The kind of the token that a text begins with, and what is left after it. -/
def first : List Char → Kind × List Char
  | [] => (.stop, [])
  | c :: rest =>
    if c = '\'' then orIllegal .text ((unquote? c rest).map (·.2))
    else if c = '"' ∨ c = '\x60' then orIllegal .name ((unquote? c rest).map (·.2))
    else if c = '[' then
      match rest.dropWhile (· != ']') with
      | _ :: rest => (.name, rest)
      | [] => (.illegal, [])
    else if isDigit c || (c == '.' && rest.head?.any isDigit) then anyNumber (c :: rest)
    else if c = '?' then (.variable, rest.dropWhile isDigit)
    else if ['$', '@', ':', '#'].contains c then orIllegal .variable (afterVariable? false rest)
    else if (c = 'x' ∨ c = 'X') ∧ rest.head? = some '\'' then
      orIllegal .blob (afterBlob? (rest.drop 1))
    else if isWordStart c then (.word, rest.dropWhile isWordChar)
    else orIllegal .mark (afterMark? (c :: rest))

/-- The characters of a text in front of what is left of it. -/
def before (cs rest : List Char) : List Char :=
  cs.take (cs.length - rest.length)

/-- The tokens of a text, in at most so many steps. The last one is its end. -/
def ofChars : (steps : Nat) → List Char → List Token
  | 0, _ => []
  | steps + 1, cs =>
    let start := afterGap cs.length cs
    let gap := before cs start
    match start with
    | [] => [⟨gap, [], .stop⟩]
    | _ =>
      let (kind, rest) := first start
      ⟨gap, before start rest, kind⟩ :: ofChars steps rest

/-- The tokens of a text up to a null character, which ends it. -/
def ofText (s : String) : List Token :=
  let cs := s.toList.takeWhile (· != '\x00')
  ofChars (cs.length + 1) cs

/-- The word that a token is, in capitals; for other tokens the empty one. -/
def keyword (t : Token) : String :=
  if t.kind = .word then upper (String.ofList t.chars) else ""

/-- The token is a mark. -/
def isMark (m : String) (t : Token) : Bool :=
  t.kind == .mark && t.chars == m.toList

/-- The token is a name that stands in double quotes, or may be one that does. -/
def isDoubleQuoted (t : Token) : Bool :=
  t.kind == .name && t.chars.head? == some '"'

/-- What stands between the quotes of a token. -/
def unquoted (t : Token) : List Char :=
  match t.chars with
  | '[' :: rest => rest.dropLast
  | c :: rest => ((unquote? c rest).map (·.1)).getD []
  | [] => []

/-- The words that are no names unless they stand in quotes. -/
def reservedWords : List String :=
  ["ADD", "ALL", "ALTER", "AND", "AS", "AUTOINCREMENT", "BETWEEN", "CASE", "CHECK", "COLLATE",
    "COMMIT", "CONSTRAINT", "CREATE", "DEFAULT", "DEFERRABLE", "DELETE", "DISTINCT", "DROP", "ELSE",
    "ESCAPE", "EXCEPT", "EXISTS", "FOREIGN", "FROM", "GROUP", "HAVING", "IN", "INDEX", "INSERT",
    "INTERSECT", "INTO", "IS", "ISNULL", "JOIN", "LIMIT", "NOT", "NOTHING", "NOTNULL", "NULL", "ON",
    "OR", "ORDER", "PRIMARY", "REFERENCES", "RETURNING", "SELECT", "SET", "TABLE", "THEN", "TO",
    "TRANSACTION", "UNION", "UNIQUE", "UPDATE", "USING", "VALUES", "WHEN", "WHERE"]

/-- The words that name a column or a table, but neither a type nor a title. -/
def halfReservedWords : List String :=
  ["CROSS", "FULL", "INDEXED", "INNER", "LEFT", "NATURAL", "OUTER", "RIGHT"]

/-- The name that a token is: a word that is not reserved, or a name in quotes. -/
def name? (t : Token) : Option String :=
  match t.kind with
  | .word => if reservedWords.contains t.keyword then none else some (String.ofList t.chars)
  | .name => some (String.ofList t.unquoted)
  | _ => none

/-- The name that a token is where a text in quotes may be one, too. -/
def anyName? (t : Token) : Option String :=
  if t.kind = .text then some (String.ofList t.unquoted) else t.name?

/-- The name that a token is as part of a type or as a title. -/
def plainName? (t : Token) : Option String :=
  if halfReservedWords.contains t.keyword then none else t.anyName?

/-- The text of tokens, without the gap in front of the first. -/
def sourceChars : List Token → List Char
  | [] => []
  | t :: rest => t.chars ++ rest.flatMap fun u => u.gap ++ u.chars

/-- The tokens in front of what is left of them. -/
def taken (ts rest : List Token) : List Token :=
  ts.take (ts.length - rest.length)

/-- The text between the first of some tokens and the first of what is left of them, without blanks
at its end. -/
def sourceBefore (ts rest : List Token) : String :=
  let chars := sourceChars (taken ts rest) ++ (rest.head?.elim [] (·.gap))
  String.ofList (chars.reverse.dropWhile isWideSpace).reverse

end Token

/-- Takes a part off the front of a list of tokens. -/
abbrev Grammar (α : Type) := List Token → Option (α × List Token)

namespace Grammar

/-- What is left after a keyword. -/
def keyword? (word : String) : List Token → Option (List Token)
  | t :: rest => if t.keyword = word then some rest else none
  | [] => none

/-- What is left after keywords in a row. -/
def keywords? : List String → List Token → Option (List Token)
  | [], ts => some ts
  | word :: words, ts => do keywords? words (← keyword? word ts)

/-- What is left after keywords in a row, if they stand there. -/
def optionalKeywords (words : List String) (ts : List Token) : Bool × List Token :=
  match keywords? words ts with
  | some rest => (true, rest)
  | none => (false, ts)

/-- What is left after a mark. -/
def mark? (m : String) : List Token → Option (List Token)
  | t :: rest => if t.isMark m then some rest else none
  | [] => none

/-- A name, where a text in quotes may be one, too. -/
def name? : Grammar String
  | t :: rest => t.anyName?.map (·, rest)
  | [] => none

/-- How many parts of a statement may wait at once for what belongs to them: words and marks that
have been read, and what has been read between them, until all is one part. -/
def partLimit : Nat := 100

/-- What is left, if no more parts wait than may. -/
def within? (parts : Nat) (ts : List Token) : Option (List Token) :=
  if parts ≤ partLimit then some ts else none

/-- One part or more, with commas between, in at most so many steps. What is read behind a comma
has as many more parts that wait for it than what is read first. -/
def listFrom? {α : Type} (part : (waiting : Nat) → Grammar α) (waiting more : Nat) :
    (steps : Nat) → Grammar (List α)
  | 0, _ => none
  | steps + 1, ts => do
    let (a, rest) ← part waiting ts
    match mark? "," rest with
    | none => return ([a], rest)
    | some rest =>
      let (as, rest) ← listFrom? part (waiting + more) 0 steps rest
      return (a :: as, rest)

/-- One part or more, with commas between, in at most so many steps. -/
def list? {α : Type} (part : Grammar α) (steps : Nat) : Grammar (List α) :=
  listFrom? (fun _ => part) 0 0 steps

/-- A part in parentheses. -/
def parenthesised? {α : Type} (part : Grammar α) : Grammar α := fun ts => do
  let (a, rest) ← part (← mark? "(" ts)
  return (a, ← mark? ")" rest)

/-- The tokens are at the end of a statement. -/
def isEnd : List Token → Bool
  | [] => true
  | t :: _ => t.kind == .stop || t.isMark ";"

end Grammar
end StoreBridge.Sql
