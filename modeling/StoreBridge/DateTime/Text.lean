import StoreBridge.DateTime
import StoreBridge.Text.Digit
import StoreBridge.Text.Blank

/-! The texts of date/times. A year outside 0 to 9999 carries a sign. In documents date and time are
joined by a `T`, and the fraction has three, six or nine digits, as few as show it exactly; in the
store they are joined by a space, and the fraction is dropped. Reading is more liberal than
writing: fields may be short, and blanks may stand in front of them. -/
namespace StoreBridge.DateTime
open Text

/-- The year: four digits, or a sign and at least four digits. -/
def yearText (year : Int) : List Char :=
  if 0 ≤ year ∧ year ≤ 9999 then padded 4 year.toNat
  else (if year < 0 then '-' else '+') :: padded 4 year.natAbs

/-- Year, month and day. -/
def dateText (t : DateTime) : List Char :=
  yearText t.year ++ '-' :: padded 2 t.month ++ '-' :: padded 2 t.day

/-- Hour, minute and second. -/
def clockText (t : DateTime) : List Char :=
  padded 2 t.hour ++ ':' :: padded 2 t.minute ++ ':' :: padded 2 t.shownSecond

/-- The fraction of the second, if it is not zero. -/
def fractionText (nano : Nat) : List Char :=
  if nano = 0 then []
  else if nano % 1000000 = 0 then '.' :: padded 3 (nano / 1000000)
  else if nano % 1000 = 0 then '.' :: padded 6 (nano / 1000)
  else '.' :: padded 9 nano

/-- Date and time with the fraction, joined by a character. -/
def fullText (join : Char) (t : DateTime) : String :=
  String.ofList (t.dateText ++ join :: t.clockText ++ fractionText t.shownNano)

/-- The text in documents. -/
def documentText (t : DateTime) : String :=
  t.fullText 'T'

/-- The text in the store. -/
def storeText (t : DateTime) : String :=
  String.ofList (t.dateText ++ ' ' :: t.clockText)

/-- A number of one up to `most` digits, after blanks. -/
def readField? (most : Nat) (cs : List Char) : Option (Nat × List Char) :=
  let cs := trimLeft cs
  let ds := (cs.take most).takeWhile isDigit
  if ds.isEmpty then none else some (decimalValue 0 ds, cs.drop ds.length)

/-- A number of any length. -/
def readDigits? (cs : List Char) : Option (Nat × List Char) :=
  let ds := cs.takeWhile isDigit
  if ds.isEmpty then none else some (decimalValue 0 ds, cs.dropWhile isDigit)

/-- A year: with a sign it may have any length, without one at most four digits. -/
def readYear? (cs : List Char) : Option (Int × List Char) :=
  match trimLeft cs with
  | '-' :: rest => (readDigits? rest).map fun (n, rest) => (-(n : Int), rest)
  | '+' :: rest => (readDigits? rest).map fun (n, rest) => ((n : Int), rest)
  | cs => (readField? 4 cs).map fun (n, rest) => ((n : Int), rest)

/-- A character, after blanks. -/
def readMark? (mark : Char) (cs : List Char) : Option (List Char) :=
  match trimLeft cs with
  | c :: rest => if c = mark then some rest else none
  | [] => none

/-- The fraction of the second, in nanoseconds: digits past the ninth are dropped. -/
def readFraction? : List Char → Option (Nat × List Char)
  | '.' :: rest =>
    let ds := rest.takeWhile isDigit
    if ds.isEmpty then none
    else some (decimalValue 0 (ds.take 9) * Nat.pow 10 (9 - ds.length), rest.dropWhile isDigit)
  | cs => some (0, cs)

/-- The date/time that a text writes. Second 60 is a leap second. -/
def ofText? (s : String) : Option DateTime := do
  let (year, cs) ← readYear? s.toList
  let cs ← readMark? '-' cs
  let (month, cs) ← readField? 2 cs
  let cs ← readMark? '-' cs
  let (day, cs) ← readField? 2 cs
  let cs ← readMark? 'T' cs
  let (hour, cs) ← readField? 2 cs
  let cs ← readMark? ':' cs
  let (minute, cs) ← readField? 2 cs
  let cs ← readMark? ':' cs
  let (second, cs) ← readField? 2 cs
  let (nano, cs) ← readFraction? cs
  if trimLeft cs ≠ [] then none
  else if second = 60 then make? year month day hour minute 59 (1000000000 + nano)
  else make? year month day hour minute second nano

end StoreBridge.DateTime
