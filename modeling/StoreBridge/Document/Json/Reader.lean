import StoreBridge.Document
import StoreBridge.Text.Digit

/-! Reading documents in JSON notation. Of members with one name the last one stands. A whole number
that fits 64 bits is an integer; any other number is real and is read in two steps: its leading
digits, as many as fit 64 bits, are rounded, and the rounded number is multiplied or divided by a
rounded power of ten. A result beyond the finite numbers is refused. -/
namespace StoreBridge.Document.Json
open Text

/-- Takes a part off the front of a text. -/
abbrev Reader (α : Type) := List Char → Option (α × List Char)

/-- The blanks of the notation. -/
def isSpace (c : Char) : Bool :=
  c == ' ' || c == '\t' || c == '\n' || c == '\r'

/-- What is left after the blanks in front. -/
def skip (cs : List Char) : List Char :=
  cs.dropWhile isSpace

/-- What is left after a mark, with blanks in front of it. -/
def mark? (m : Char) (cs : List Char) : Option (List Char) :=
  match skip cs with
  | c :: rest => if c = m then some rest else none
  | [] => none

/-- What is left after a word. -/
def word? (word : String) (cs : List Char) : Option (List Char) :=
  if cs.take word.length = word.toList then some (cs.drop word.length) else none

/-- Four hexadecimal digits. -/
def unit? (cs : List Char) : Option (Nat × List Char) := do
  let ds := cs.take 4
  if ds.length = 4 then return (← hexNumber? 0 ds, cs.drop 4) else none

/-- A character outside the surrogates. -/
def scalar? (n : Nat) : Option Char :=
  if n.isValidChar then some (Char.ofNat n) else none

/-- The character that a leading unit and what follows it write: two units where the first is a
leading surrogate. -/
def unitChar? (n : Nat) (cs : List Char) : Option (Char × List Char) :=
  if 0xD800 ≤ n ∧ n < 0xDC00 then
    match cs with
    | '\\' :: 'u' :: rest => do
      let (m, rest) ← unit? rest
      if 0xDC00 ≤ m ∧ m < 0xE000 then
        return (← scalar? (0x10000 + 0x400 * (n - 0xD800) + (m - 0xDC00)), rest)
      else none
    | _ => none
  else (scalar? n).map fun c => (c, cs)

/-- The character that is written after a backslash. -/
def escape? : List Char → Option (Char × List Char)
  | '"' :: rest => some ('"', rest)
  | '\\' :: rest => some ('\\', rest)
  | '/' :: rest => some ('/', rest)
  | 'b' :: rest => some ('\x08', rest)
  | 'f' :: rest => some ('\x0c', rest)
  | 'n' :: rest => some ('\n', rest)
  | 'r' :: rest => some ('\r', rest)
  | 't' :: rest => some ('\t', rest)
  | 'u' :: rest => do
    let (n, rest) ← unit? rest
    unitChar? n rest
  | _ => none

/-- The characters up to the closing quote, in at most so many steps. -/
def characters? : (steps : Nat) → Reader (List Char)
  | 0, _ => none
  | _ + 1, [] => none
  | _ + 1, '"' :: rest => some ([], rest)
  | steps + 1, '\\' :: rest => do
    let (c, rest) ← escape? rest
    let (cs, rest) ← characters? steps rest
    return (c :: cs, rest)
  | steps + 1, c :: rest =>
    if c.toNat < 32 then none
    else do
      let (cs, rest) ← characters? steps rest
      return (c :: cs, rest)

/-- A text whose opening quote has been read. -/
def text? : Reader String := fun cs => do
  let (inner, rest) ← characters? (cs.length + 1) cs
  return (String.ofList inner, rest)

/-- The number that digits write after `seed`, as long as it fits 64 bits, and how many of the
digits that takes. -/
def absorb (seed : Nat) : List Char → Nat × Nat
  | [] => (seed, 0)
  | c :: cs =>
    let next := 10 * seed + digitValue c
    if next < Nat.pow 2 64 then
      let (n, taken) := absorb next cs
      (n, taken + 1)
    else (seed, 0)

/-- The greatest power of ten that is tabulated. -/
def greatestPower : Nat := 308

/-- A rounded number divided by a power of ten, in steps of the greatest power. -/
def dividedByTen : (steps : Nat) → Binary64 → Nat → Binary64
  | 0, x, _ => x
  | steps + 1, x, k =>
    if k ≤ greatestPower then x.overTen k
    else if x.magnitude = 0 then x
    else dividedByTen steps (x.overTen greatestPower) (k - greatestPower)

/-- A rounded number times a power of ten, unless that is not finite. -/
def scaled? (x : Binary64) (exponent : Int) : Option Binary64 :=
  if x.magnitude = 0 then some x
  else if exponent < 0 then some (dividedByTen 4 x exponent.natAbs)
  else if exponent.toNat ≤ greatestPower then
    let y := x.timesTen exponent.toNat
    if y.isFinite then some y else none
  else none

/-- The digits of a fraction behind the point, at least one, if there is a point. -/
def fraction? : Reader (Option (List Char))
  | '.' :: rest =>
    let ds := rest.takeWhile isDigit
    if ds.isEmpty then none else some (some ds, rest.dropWhile isDigit)
  | cs => some (none, cs)

/-- The sign in front of the digits of an exponent. -/
def exponentSign : List Char → Bool × List Char
  | '-' :: rest => (true, rest)
  | '+' :: rest => (false, rest)
  | cs => (false, cs)

/-- An exponent, if there is one. -/
def exponent? : Reader (Option Int)
  | [] => some (none, [])
  | c :: rest =>
    if c = 'e' ∨ c = 'E' then
      let (negative, rest) := exponentSign rest
      let ds := rest.takeWhile isDigit
      if ds.isEmpty then none
      else
        let n : Int := decimalValue 0 ds
        some (some (if negative then -n else n), rest.dropWhile isDigit)
    else some (none, c :: rest)

/-- A whole number: an integer, unless it is a negative zero or does not fit. -/
def whole (negative : Bool) (n : Nat) : Document :=
  if negative then
    if n = 0 ∨ Nat.pow 2 63 < n then .real (Binary64.ofRatio true n 1) else .integer (-n)
  else .integer n

/-- The real number with these parts. -/
def real? (negative : Bool) (digits fraction : List Char) (exponent : Int) : Option Document := do
  let (n, taken) := absorb 0 digits
  let (n, takenAfter) := absorb n fraction
  let shift : Int := (digits.length - taken : Nat) - takenAfter
  let x ← scaled? (Binary64.ofRatio false n 1) (exponent + shift)
  return .real (if negative then x.neg else x)

/-- A number whose sign has been read. -/
def number? (negative : Bool) : Reader Document := fun cs => do
  let digits := cs.takeWhile isDigit
  if digits.isEmpty || (digits.head? == some '0' && digits.length != 1) then none
  else
    let (fraction, rest) ← fraction? (cs.dropWhile isDigit)
    let (exponent, rest) ← exponent? rest
    let (n, taken) := absorb 0 digits
    if fraction.isNone && exponent.isNone && taken == digits.length then
      return (whole negative n, rest)
    else return (← real? negative digits (fraction.getD []) (exponent.getD 0), rest)

/-- The members, without those whose name comes again later. -/
def lastOfEach : List (String × Document) → List (String × Document)
  | [] => []
  | (name, d) :: rest =>
    if rest.any (·.1 == name) then lastOfEach rest else (name, d) :: lastOfEach rest

mutual

/-- A document, in at most so many steps. -/
def value? : (steps : Nat) → Reader Document
  | 0, _ => none
  | steps + 1, cs =>
    match skip cs with
    | [] => none
    | '"' :: rest => do
      let (s, rest) ← text? rest
      return (.text s, rest)
    | '[' :: rest =>
      match mark? ']' rest with
      | some rest => some (.list [], rest)
      | none => do
        let (items, rest) ← items? steps rest
        return (.list items, rest)
    | '\x7b' :: rest =>
      match mark? '\x7d' rest with
      | some rest => some (.object [], rest)
      | none => do
        let (members, rest) ← members? steps rest
        return (.object (lastOfEach members), rest)
    | '-' :: rest => number? true rest
    | 't' :: rest => (word? "rue" rest).map fun rest => (.boolean true, rest)
    | 'f' :: rest => (word? "alse" rest).map fun rest => (.boolean false, rest)
    | 'n' :: rest => (word? "ull" rest).map fun rest => (.null, rest)
    | cs => number? false cs

/-- The items of a list, and its closing bracket. -/
def items? : (steps : Nat) → Reader (List Document)
  | 0, _ => none
  | steps + 1, cs => do
    let (d, rest) ← value? steps cs
    match mark? ',' rest with
    | some rest =>
      let (ds, rest) ← items? steps rest
      return (d :: ds, rest)
    | none => return ([d], ← mark? ']' rest)

/-- The members of an object, and its closing bracket. -/
def members? : (steps : Nat) → Reader (List (String × Document))
  | 0, _ => none
  | steps + 1, cs => do
    let (name, rest) ← text? (← mark? '"' cs)
    let (d, rest) ← value? steps (← mark? ':' rest)
    match mark? ',' rest with
    | some rest =>
      let (ds, rest) ← members? steps rest
      return ((name, d) :: ds, rest)
    | none => return ([(name, d)], ← mark? '\x7d' rest)

end

/-- The document that a text is. Every two steps of reading take at least one character. -/
def read? (s : String) : Option Document := do
  let (d, rest) ← value? (2 * s.length + 1) s.toList
  if (skip rest).isEmpty then some d else none

end StoreBridge.Document.Json
