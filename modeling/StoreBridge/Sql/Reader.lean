import StoreBridge.Integer64
import StoreBridge.Sql.Statement
import StoreBridge.Sql.Token

/-! Reading the statements of the provider. Keywords are taken in any case, blanks may stand between
the parts, names are read between double quotes, and values are literals or placeholders. Each
reader takes its part off the front of the text and leaves the rest; a statement is read when
nothing but blanks is left over. -/
namespace StoreBridge.Sql
open Text

/-- Takes a part off the front of a text. -/
abbrev Reader (α : Type) := List Char → Option (α × List Char)

/-- What is left after the blanks in front. -/
def skip (cs : List Char) : List Char :=
  cs.dropWhile isSpace

/-- What is left after a keyword. -/
def keyword? (word : String) (cs : List Char) : Option (List Char) :=
  let cs := skip cs
  if (cs.takeWhile isWordChar).map Char.toUpper = word.toList then some (cs.dropWhile isWordChar)
  else none

/-- What is left after keywords in a row. -/
def keywords? : List String → List Char → Option (List Char)
  | [], cs => some cs
  | word :: words, cs => do keywords? words (← keyword? word cs)

/-- What is left after a mark. -/
def mark? (m : Char) (cs : List Char) : Option (List Char) :=
  match skip cs with
  | c :: rest => if c = m then some rest else none
  | [] => none

/-- A name between double quotes. -/
def name? : Reader String := fun cs => do
  let (text, rest) ← unquote? '"' (← mark? '"' cs)
  return (String.ofList text, rest)

/-- Octets as pairs of hexadecimal digits, up to the closing quote. -/
def octets? : Reader (List UInt8)
  | '\'' :: rest => some ([], rest)
  | a :: b :: rest => do
    let high ← hexValue? a
    let low ← hexValue? b
    let (octets, rest) ← octets? rest
    return (UInt8.ofNat (16 * high + low) :: octets, rest)
  | _ => none

/-- The exponent of a number, if one follows: the mark, a sign, and digits. -/
def exponent? (cs : List Char) : Option (Int × List Char) :=
  match cs with
  | c :: rest =>
    if c = 'e' ∨ c = 'E' then
      let (negative, rest) : Bool × List Char := match rest with
        | '-' :: r => (true, r)
        | '+' :: r => (false, r)
        | r => (false, r)
      let ds := rest.takeWhile isDigit
      if ds.isEmpty then none
      else
        let n : Int := decimalValue 0 ds
        some (if negative then -n else n, rest.dropWhile isDigit)
    else none
  | [] => none

/-- The integer with this sign, or the real number nearest to it if it is out of range. -/
def integerDatum (negative : Bool) (n : Nat) : Datum :=
  match integer64? (if negative then -n else n) with
  | some i => .integer i
  | none => .real (.ofDecimal negative ⟨n, 0⟩)

/-- A number without a sign, which is given apart. A point or an exponent makes it real. -/
def number? (negative : Bool) : Reader Datum := fun cs =>
  let whole := cs.takeWhile isDigit
  let (point, fraction, rest) : Bool × List Char × List Char := match cs.dropWhile isDigit with
    | '.' :: r => (true, r.takeWhile isDigit, r.dropWhile isDigit)
    | r => (false, [], r)
  if whole.isEmpty && fraction.isEmpty then none
  else
    let (datum, rest) : Datum × List Char := match exponent? rest with
      | some (e, r) => (.real (.ofDecimal negative (.ofParts whole fraction e)), r)
      | none =>
        (if point then .real (.ofDecimal negative (.ofParts whole fraction 0))
          else integerDatum negative (decimalValue 0 whole), rest)
    if rest.head?.any isWordChar then none else some (datum, rest)

/-- The sigil that a character is. -/
def sigil? (c : Char) : Option Sigil :=
  Sigil.all.find? fun s => s.char == c

/-- A literal or a placeholder. -/
def term? : Reader Term := fun cs =>
  match skip cs with
  | [] => none
  | c :: rest =>
    match sigil? c with
    | some sigil =>
      let name := rest.takeWhile isWordChar
      if name.isEmpty then none
      else some (.placeholder ⟨sigil, String.ofList name⟩, rest.dropWhile isWordChar)
    | none =>
      if c = '\'' then do
        let (text, rest) ← unquote? '\'' rest
        return (.literal (.text (String.ofList text)), rest)
      else if (c = 'X' ∨ c = 'x') ∧ rest.head? = some '\'' then do
        let (octets, rest) ← octets? (rest.drop 1)
        return (.literal (.blob octets), rest)
      else if c = '-' then do
        let (datum, rest) ← number? true (skip rest)
        return (.literal datum, rest)
      else if isDigit c || c == '.' then do
        let (datum, rest) ← number? false (c :: rest)
        return (.literal datum, rest)
      else do
        let rest ← keyword? "NULL" (c :: rest)
        return (.literal .null, rest)

/-- One part or more, with something between each two. The number of parts is at most `most`. -/
def sequence? {α : Type} (part : Reader α) (between : List Char → Option (List Char)) :
    Nat → Reader (List α)
  | 0, _ => none
  | most + 1, cs => do
    let (a, rest) ← part cs
    match between rest with
    | none => some ([a], rest)
    | some rest =>
      let (as, rest) ← sequence? part between most rest
      return (a :: as, rest)

/-- One part or more, with commas between. -/
def list? {α : Type} (part : Reader α) : Reader (List α) := fun cs =>
  sequence? part (mark? ',') cs.length cs

/-- A part in parentheses. -/
def parenthesised? {α : Type} (part : Reader α) : Reader α := fun cs => do
  let (a, rest) ← part (← mark? '(' cs)
  return (a, ← mark? ')' rest)

/-- A column that is null, or equal to something. -/
def condition? : Reader Condition := fun cs => do
  let (column, rest) ← name? cs
  match keywords? ["IS", "NULL"] rest with
  | some rest => some (.isNull column, rest)
  | none =>
    let (term, rest) ← term? (← mark? '=' rest)
    return (.equals column term, rest)

/-- The conditions after the keyword, or none without it. -/
def conditions? : Reader (List Condition) := fun cs =>
  match keyword? "WHERE" cs with
  | none => some ([], cs)
  | some rest => sequence? condition? (keyword? "AND") rest.length rest

/-- A column with what is assigned to it. -/
def assignment? : Reader (String × Term) := fun cs => do
  let (column, rest) ← name? cs
  let (term, rest) ← term? (← mark? '=' rest)
  return ((column, term), rest)

/-- The table and the conditions of a query. -/
def source? : Reader (String × List Condition) := fun cs => do
  let (table, rest) ← name? (← keyword? "FROM" cs)
  let (conditions, rest) ← conditions? rest
  return ((table, conditions), rest)

/-- The rest of a query. -/
def select? : Reader Statement := fun cs =>
  match mark? '*' cs with
  | some rest => do
    let ((table, conditions), rest) ← source? rest
    return (.select .all table conditions, rest)
  | none => do
    let (names, rest) ← list? name? cs
    let ((table, conditions), rest) ← source? rest
    return (.select (.columns names) table conditions, rest)

/-- The rest of an insertion. -/
def insert? : Reader Statement := fun cs => do
  let (table, rest) ← name? (← keyword? "INTO" cs)
  match keywords? ["DEFAULT", "VALUES"] rest with
  | some rest => some (.insert table [], rest)
  | none =>
    let (columns, rest) ← parenthesised? (list? name?) rest
    let (terms, rest) ← parenthesised? (list? term?) (← keyword? "VALUES" rest)
    if columns.length = terms.length then some (.insert table (columns.zip terms), rest) else none

/-- The rest of an update. -/
def update? : Reader Statement := fun cs => do
  let (table, rest) ← name? cs
  let (assignments, rest) ← list? assignment? (← keyword? "SET" rest)
  let (conditions, rest) ← conditions? rest
  return (.update table assignments conditions, rest)

/-- The rest of a deletion. -/
def delete? : Reader Statement := fun cs => do
  let ((table, conditions), rest) ← source? cs
  return (.delete table conditions, rest)

/-- A statement at the front of a text. -/
def statement? : Reader Statement := fun cs =>
  match keyword? "SELECT" cs with
  | some rest => select? rest
  | none =>
    match keyword? "INSERT" cs with
    | some rest => insert? rest
    | none =>
      match keyword? "UPDATE" cs with
      | some rest => update? rest
      | none => do delete? (← keyword? "DELETE" cs)

/-- The statement that characters are, with nothing but blanks behind it. -/
def Statement.ofChars? (cs : List Char) : Option Statement := do
  let (statement, rest) ← statement? cs
  if (skip rest).isEmpty then some statement else none

/-- The statement that a text is. -/
def Statement.ofText? (s : String) : Option Statement :=
  Statement.ofChars? s.toList

end StoreBridge.Sql
