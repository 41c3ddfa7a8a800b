import StoreBridge.Document
import StoreBridge.Document.Toml.Word
import StoreBridge.Integer64
import StoreBridge.Text.Split

/-! Numbers and date/times of TOML notation. Both begin with a bare word; what the word holds, and
the mark behind it, tell them apart. Single underscores may stand between digits. The parts of a
date/time are words and need not be numbers: whether it is one is a question of its own. -/
namespace StoreBridge.Document.Toml
open Text

/-- A digit of a base up to sixteen. -/
def isDigitOf (base : Nat) (c : Char) : Bool :=
  (hexValue? c).any (decide <| · < base)

/-- Digits, with single underscores between left out, and what follows. -/
def digits? (base : Nat) (zerosInFront : Bool) : Reader (List Char) := fun cs =>
  let part (c : Char) := isDigitOf base c || c == '_'
  let run := cs.takeWhile part
  let digits := run.filter (· != '_')
  if (splitAt '_' run).all (!·.isEmpty) &&
      (zerosInFront || digits.length ≤ 1 || digits.head? != some '0') then
    some (digits, cs.dropWhile part)
  else none

/-- A minus sign. -/
def minus (cs : List Char) : Bool × List Char :=
  match cs with
  | '-' :: rest => (true, rest)
  | cs => (false, cs)

/-- The number that digits of a base write. -/
def baseValue (base : Nat) (ds : List Char) : Nat :=
  ds.foldl (fun n c => base * n + (hexValue? c).getD 0) 0

/-- The integer that a word is, in digits of a base. -/
def integer? (base : Nat) (word : List Char) : Option Document := do
  let (negative, rest) := if base = 10 then minus word else (false, word)
  let (ds, rest) ← digits? base (base != 10) rest
  if !rest.isEmpty then none
  else
    let n : Int := baseValue base ds
    (integer64? (if negative then -n else n)).map fun i => .integer i.toInt

/-- An exponent, if one follows: its mark is the last character of the word or not, and in the
former case a plus sign and the digits come after it. -/
def exponent? (word after : List Char) : Option (Int × List Char) :=
  match word with
  | [] => some (0, after)
  | [c] =>
    if c = 'e' ∨ c = 'E' then do
      let (word, rest) ← word? ((mark? '+' after).getD after)
      let (ds, left) ← digits? 10 true word
      if left.isEmpty then some (decimalValue 0 ds, rest) else none
    else none
  | c :: word =>
    if c = 'e' ∨ c = 'E' then do
      let (negative, word) := minus word
      let (ds, left) ← digits? 10 true word
      let n : Int := decimalValue 0 ds
      if left.isEmpty then some (if negative then -n else n, after) else none
    else none

/-- A real number, which has to be finite. -/
def finite? (negative : Bool) (whole fraction : List Char) (exponent : Int) : Option Document :=
  let x := Binary64.ofDecimal negative (.ofParts whole fraction exponent)
  if x.isFinite then some (.real x) else none

/-- The real number that begins with a word, without a point. -/
def pointless? (word after : List Char) : Option (Document × List Char) := do
  let (negative, rest) := minus word
  let (whole, left) ← digits? 10 false rest
  let (exponent, rest) ← exponent? left after
  return (← finite? negative whole [] exponent, rest)

/-- The real number that begins with a word and a point; `after` comes after the point. -/
def pointed? (word after : List Char) : Option (Document × List Char) := do
  let (negative, rest) := minus word
  let (whole, left) ← digits? 10 false rest
  if !left.isEmpty then none
  else
    let (word, after) ← word? after
    let (fraction, left) ← digits? 10 true word
    let (exponent, rest) ← exponent? left after
    return (← finite? negative whole fraction exponent, rest)

/-- What is not a finite number. -/
def special? (word : List Char) : Option Binary64 :=
  let (negative, name) := minus word
  if name = "inf".toList then some (.ofMagnitude negative Binary64.infiniteMagnitude)
  else if name = "nan".toList then
    some (.ofMagnitude negative (Binary64.infiniteMagnitude + Nat.pow 2 51))
  else none

/-- The number that begins with a word. -/
def number? (word after : List Char) : Option (Document × List Char) :=
  match word with
  | '0' :: 'x' :: ds => (integer? 16 ds).map fun d => (d, after)
  | '0' :: 'o' :: ds => (integer? 8 ds).map fun d => (d, after)
  | '0' :: 'b' :: ds => (integer? 2 ds).map fun d => (d, after)
  | word =>
    if word.contains 'e' || word.contains 'E' then pointless? word after
    else match after with
      | '.' :: after => pointed? word after
      | after =>
        match special? word with
        | some x => some (.real x, after)
        | none => (integer? 10 word).map fun d => (d, after)

/-- What is left after a mark and a word, or all of it if the mark does not follow. -/
def markedWord? (m : Char) (cs : List Char) : Option (List Char) :=
  match mark? m cs with
  | none => some cs
  | some rest => (word? rest).map (·.2)

/-- What is left after the rest of a time of day: `cs` follows the colon behind the hour. -/
def clock? (cs : List Char) : Option (List Char) := do
  let (_, rest) ← word? cs
  let (_, rest) ← word? (← mark? ':' rest)
  markedWord? ':' (← markedWord? '+' (← markedWord? '.' rest))

/-- What is left after one blank and a word, or all of it if they do not follow. -/
def afterHour (cs : List Char) : List Char :=
  match cs with
  | ' ' :: rest => ((word? rest).map (·.2)).getD cs
  | cs => cs

/-- What is left after a date without a colon behind its first word. -/
def date? (after : List Char) : Option (List Char) :=
  match afterHour after with
  | ':' :: rest => clock? rest
  | rest => some rest

/-- A word is taken for the beginning of a date: it holds a `T`, or a hyphen that is neither its
first character nor the sign of an exponent. -/
def looksDated (word : List Char) : Bool :=
  let signed := (word.zip (word.drop 1)).any fun (a, b) => (a == 'e' || a == 'E') && b == '-'
  word.contains 'T' || word.contains 't' || ((word.drop 1).contains '-' && !signed)

/-- The number or date/time at the front of a text. -/
def numberOrMoment? : Reader Document := fun cs => do
  let (word, after) ← word? cs
  let moment (rest : List Char) : Document × List Char :=
    (.moment (String.ofList (cs.take (cs.length - rest.length))), rest)
  if looksDated word then (date? after).map moment
  else match after with
    | ':' :: rest => (clock? (afterHour rest)).map moment
    | after => number? word after

/-- The number that two digits at the front of a text write. -/
def twoDigits? : List Char → Option (Nat × List Char)
  | a :: b :: rest =>
    if isDigit a && isDigit b then some (decimalValue 0 [a, b], rest) else none
  | _ => none

/-- What is left after a date: four digits of a year, a month of the twelve, a day up to 31. -/
def readDate? (cs : List Char) : Option (List Char) := do
  let (_, rest) ← twoDigits? cs
  let (_, rest) ← twoDigits? rest
  let (month, rest) ← twoDigits? (← mark? '-' rest)
  let (day, rest) ← twoDigits? (← mark? '-' rest)
  if 1 ≤ month ∧ month ≤ 12 ∧ 1 ≤ day ∧ day ≤ 31 then some rest else none

/-- What is left after a time of day, the last of which may be written as hour 24. -/
def readTime? (cs : List Char) : Option (List Char) := do
  let (hour, rest) ← twoDigits? cs
  let (minute, rest) ← twoDigits? (← mark? ':' rest)
  let (second, rest) ← twoDigits? (← mark? ':' rest)
  let rest ← match rest with
    | '.' :: rest =>
      if (rest.head?).any isDigit then some (rest.dropWhile isDigit) else none
    | rest => some rest
  if hour ≤ 24 ∧ minute ≤ 59 ∧ second ≤ 59 then some rest else none

/-- An offset, a letter `Z` or a sign with hours and minutes, or nothing. -/
def isOffset (cs : List Char) : Bool :=
  match cs with
  | [] => true
  | c :: rest =>
    if c = 'Z' ∨ c = 'z' then rest.isEmpty
    else if c = '+' ∨ c = '-' then
      (do
        let (_, rest) ← twoDigits? rest
        let (_, rest) ← twoDigits? (← mark? ':' rest)
        return rest.isEmpty : Option Bool).getD false
    else false

/-- A text is a time of day, a date, or both with or without an offset. -/
def isMoment (s : String) : Bool :=
  let cs := s.toList
  if cs[2]? = some ':' then (readTime? cs).any (·.isEmpty)
  else match readDate? cs with
    | none => false
    | some [] => true
    | some (c :: rest) =>
      if c = 'T' ∨ c = 't' ∨ c = ' ' then (readTime? rest).any isOffset else false

end StoreBridge.Document.Toml
