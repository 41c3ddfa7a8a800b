import StoreBridge.Store.Conversion
import StoreBridge.Store.Pattern

/-! The functions of expressions. Each takes so many arguments; a call with more or fewer cannot be
prepared. A null among the arguments makes most results null. -/
namespace StoreBridge.Store
open Sql Text

/-- A function: its name in small letters, how many arguments it takes, and what it does with them.
Texts are compared by a collation. -/
structure Function where
  name : String
  least : Nat
  /-- The greatest number of arguments, if there is one. -/
  greatest : Option Nat
  apply : Collation → List Datum → Except StoreFault Datum

namespace Function

/-- The characters that a value counts as, up to a null character. -/
def charsOf? (d : Datum) : Option (List Char) :=
  (textOf? d).map upToNull

/-- A text as a value. -/
def ofChars (cs : List Char) : Datum :=
  .text (String.ofList cs)

/-- A number of things as a value. -/
def ofCount (n : Nat) : Datum :=
  .integer (Int64.ofNat n)

/-- A truth as a value. -/
def ofBool (b : Bool) : Datum :=
  .integer (if b then 1 else 0)

/-- The value without its sign. -/
def absolute : Datum → Except StoreFault Datum
  | .null => .ok .null
  | .integer n =>
    match integer64? n.toInt.natAbs with
    | some m => .ok (.integer m)
    | none => .error .outOfRange
  | d => .ok (.real (realOf d).abs)

/-- The sign of a number; of what is no number, null. -/
def sign (d : Datum) : Datum :=
  match asNumber d with
  | .integer n => .integer (if n.toInt < 0 then -1 else if n = 0 then 0 else 1)
  | .real x => .integer (if x.magnitude = 0 then 0 else if x.isNegative then -1 else 1)
  | _ => .null

/-- The name of the class of a value. -/
def className : Datum → String
  | .null => "null"
  | .integer _ => "integer"
  | .real _ => "real"
  | .text _ => "text"
  | .blob _ => "blob"

/-- The length of a value: of a blob in octets, of others in characters. -/
def length : Datum → Datum
  | .null => .null
  | .blob octets => ofCount octets.length
  | d => ofCount ((charsOf? d).getD []).length

/-- The text with other characters, if the value is not null. -/
def mapped (f : Char → Char) (d : Datum) : Datum :=
  ((textOf? d).map fun s => ofChars (s.toList.map f)).getD .null

/-- The position of a part in a list, counted from one; zero if it is not there. -/
def positionFrom {α : Type} [BEq α] (part : List α) : (position : Nat) → List α → Nat
  | position, [] => if part.isEmpty then position else 0
  | position, c :: cs =>
    if part.isPrefixOf (c :: cs) then position else positionFrom part (position + 1) cs

/-- The position of a part in a value. -/
def position : Datum → Datum → Datum
  | .null, _ | _, .null => .null
  | .blob a, .blob b => ofCount (positionFrom b 1 a)
  | d, e => ofCount (positionFrom ((textOf? e).getD "").toList 1 ((textOf? d).getD "").toList)

/-- A text with every occurrence of a part replaced, in at most so many steps. -/
def replacedIn (part new : List Char) : (steps : Nat) → List Char → List Char
  | 0, cs => cs
  | _ + 1, [] => []
  | steps + 1, c :: cs =>
    if part.isPrefixOf (c :: cs) then
      new ++ replacedIn part new steps ((c :: cs).drop part.length)
    else c :: replacedIn part new steps cs

/-- A value with every occurrence of a part replaced. -/
def replace (d part new : Datum) : Datum :=
  match textOf? d, textOf? part, textOf? new with
  | some s, some p, some n =>
    if p.isEmpty then .text s
    else ofChars (replacedIn p.toList n.toList s.length s.toList)
  | _, _, _ => .null

/-- A text without some characters at its ends. -/
def trim (atStart atEnd : Bool) (d set : Datum) : Datum :=
  match textOf? d, textOf? set with
  | some s, some set =>
    let cs := s.toList
    let cs := if atStart then cs.dropWhile set.toList.contains else cs
    ofChars (if atEnd then (cs.reverse.dropWhile set.toList.contains).reverse else cs)
  | _, _ => .null

/-- How many elements to leave out and how many to take, where a part of a list of so many elements
is asked for by a position and a count. Positions below zero are counted from the end, and a count
below zero takes what stands in front. -/
def window (length : Nat) (position : Int) (count : Option Int) : Nat × Nat :=
  let isBackward := count.any (· < 0)
  let count : Int := (count.map fun n => (n.natAbs : Int)).getD 1000000000
  let (position, count) :=
    if position < 0 then
      let position := position + length
      if position < 0 then (0, max (count + position) 0) else (position, count)
    else if 0 < position then (position - 1, count)
    else (0, if 0 < count then count - 1 else count)
  let (position, count) :=
    if isBackward then
      let position := position - count
      if position < 0 then (0, count + position) else (position, count)
    else (position, count)
  (position.toNat, count.toNat)

/-- The integer of 32 bits that a value counts as. -/
def smallInteger (d : Datum) : Int :=
  (integerOf d).toInt32.toInt

/-- A part of a value. -/
def part (d position : Datum) (count : Option Datum) : Datum :=
  if position == .null || count == some .null then .null
  else
    let cut {α : Type} (as : List α) : List α :=
      let (out, taken) := window as.length (smallInteger position) (count.map smallInteger)
      (as.drop out).take taken
    match d with
    | .null | .blob [] => .null
    | .blob octets => .blob (cut octets)
    | d => ofChars (cut ((charsOf? d).getD []))

/-- The first of some values that is not null. -/
def firstKnown : List Datum → Datum
  | [] => .null
  | .null :: rest => firstKnown rest
  | d :: _ => d

/-- The extreme one of some values; null if one of them is. Of equal ones the greatest is the first
and the least the last. -/
def extreme (c : Collation) (isGreatest : Bool) : List Datum → Datum
  | [] => .null
  | d :: rest =>
    if (d :: rest).contains .null then .null
    else rest.foldl (fun best e =>
      if isGreatest then if order c best e == .lt then e else best
      else if order c best e == .lt then best else e) d

/-- The character with a number. -/
def characterOf (d : Datum) : Char :=
  let n := (integerOf d).toInt
  if 0 ≤ n ∧ n ≤ 0x10ffff ∧ n.toNat.isValidChar then Char.ofNat n.toNat else '\ufffd'

/-- The literal of a value. -/
def quoted : Datum → Datum
  | .text s => ofChars (enquote '\'' (upToNull s))
  | .real x => .text x.columnText
  | d => ofChars d.literalChars

/-- The octets that pairs of hexadecimal digits write, between which some characters may stand. -/
def octetsOfHex? (between : List Char) : List Char → Option (List UInt8)
  | [] => some []
  | a :: b :: rest =>
    match hexValue? a, hexValue? b with
    | some high, some low =>
      (octetsOfHex? between rest).map (UInt8.ofNat (16 * high + low) :: ·)
    | none, _ => if between.contains a then octetsOfHex? between (b :: rest) else none
    | _, _ => none
  | [a] => if between.contains a && (hexValue? a).isNone then some [] else none

/-- The blob that hexadecimal digits write. -/
def unhex (d between : Datum) : Datum :=
  match charsOf? d, charsOf? between with
  | some cs, some between => ((octetsOfHex? between cs).map Datum.blob).getD .null
  | _, _ => .null

/-- A number rounded to a whole one, a half going away from zero. Very large numbers are whole. -/
def rounded (d : Datum) : Datum :=
  match d with
  | .null => .null
  | d =>
    let x := realOf d
    let half := Binary64.ofRatio x.isNegative 1 2
    if 4503599627370496 < x.ratio.1 / x.ratio.2 ∨ !x.isFinite then .real x
    else .real (.ofInt ((x.add? half).getD x).truncated.toInt)

/-- The character that takes the meaning from another one in a pattern. -/
def escapeOf? (d : Datum) : Except StoreFault (Option Char) :=
  match charsOf? d with
  | none => .ok none
  | some [c] => .ok (some c)
  | some _ => .error .badArgument

/-- The greatest number of octets of a pattern. -/
def patternLimit : Nat := 50000

/-- A text fits a pattern; null if one of the values is. -/
def fitting (test : String → String → Bool) (pattern d : Datum) : Except StoreFault Datum :=
  match textOf? pattern, textOf? d with
  | some p, some s =>
    if patternLimit < p.utf8ByteSize then .error .badArgument else .ok (ofBool (test p s))
  | _, _ => .ok .null

/-- A text fits a pattern with an escape, or without one. -/
def like (pattern d : Datum) (escape : Option Datum) : Except StoreFault Datum :=
  match escape with
  | none => fitting (fun p s => fitsLike p none s) pattern d
  | some e => do
    match ← escapeOf? e with
    | none => return .null
    | some c => fitting (fun p s => fitsLike p (some c) s) pattern d

/-- A function with a fixed number of arguments whose result does not depend on a collation. -/
def simple (name : String) (count : Nat) (f : List Datum → Datum) : Function :=
  ⟨name, count, some count, fun _ ds => .ok (f ds)⟩

/-- The value at a position among arguments. -/
def at? (ds : List Datum) (i : Nat) : Datum :=
  ds[i]?.getD .null

/-- The functions of one value and of what is to be trimmed off it. -/
def trimming (name : String) (atStart atEnd : Bool) : Function :=
  ⟨name, 1, some 2, fun _ ds => .ok (trim atStart atEnd (at? ds 0) (ds[1]?.getD (.text " ")))⟩

/-- All functions whose result depends on nothing but their arguments. To match a value is not
possible outside of tables of another kind. -/
def all : List Function :=
  [⟨"abs", 1, some 1, fun _ ds => absolute (at? ds 0)⟩,
    ⟨"char", 0, none, fun _ ds => .ok (ofChars (ds.map characterOf))⟩,
    ⟨"coalesce", 2, none, fun _ ds => .ok (firstKnown ds)⟩,
    ⟨"glob", 2, some 2, fun _ ds => fitting fitsGlob (at? ds 0) (at? ds 1)⟩,
    simple "hex" 1 fun ds => ofChars (Datum.hexDigits (octetsOf (at? ds 0))),
    simple "ifnull" 2 firstKnown,
    simple "iif" 3 fun ds => if truthOf? (at? ds 0) = some true then at? ds 1 else at? ds 2,
    simple "instr" 2 fun ds => position (at? ds 0) (at? ds 1),
    simple "length" 1 fun ds => length (at? ds 0),
    ⟨"like", 2, some 3, fun _ ds => like (at? ds 0) (at? ds 1) ds[2]?⟩,
    simple "likelihood" 2 (at? · 0),
    simple "likely" 1 (at? · 0),
    simple "lower" 1 fun ds => mapped Char.toLower (at? ds 0),
    trimming "ltrim" true false,
    ⟨"match", 2, some 2, fun _ _ => .error .badArgument⟩,
    ⟨"max", 2, none, fun c ds => .ok (extreme c true ds)⟩,
    ⟨"min", 2, none, fun c ds => .ok (extreme c false ds)⟩,
    ⟨"nullif", 2, some 2, fun c ds =>
      .ok (if isSame c (at? ds 0) (at? ds 1) then .null else at? ds 0)⟩,
    simple "quote" 1 fun ds => quoted (at? ds 0),
    simple "replace" 3 fun ds => replace (at? ds 0) (at? ds 1) (at? ds 2),
    simple "round" 1 fun ds => rounded (at? ds 0),
    trimming "rtrim" false true,
    simple "sign" 1 fun ds => sign (at? ds 0),
    ⟨"substr", 2, some 3, fun _ ds => .ok (part (at? ds 0) (at? ds 1) ds[2]?)⟩,
    ⟨"substring", 2, some 3, fun _ ds => .ok (part (at? ds 0) (at? ds 1) ds[2]?)⟩,
    trimming "trim" true true,
    simple "typeof" 1 fun ds => .text (className (at? ds 0)),
    ⟨"unhex", 1, some 2, fun _ ds => .ok (unhex (at? ds 0) (ds[1]?.getD (.text "")))⟩,
    simple "unicode" 1 fun ds =>
      ((((charsOf? (at? ds 0)).getD []).head?).map fun c => ofCount c.toNat).getD .null,
    simple "unlikely" 1 (at? · 0),
    simple "upper" 1 fun ds => mapped Char.toUpper (at? ds 0),
    simple "zeroblob" 1 fun ds => .blob (List.replicate (integerOf (at? ds 0)).toInt.toNat 0)]

/-- The function with a name, in any case, that takes so many arguments. -/
def find? (name : String) (count : Nat) : Option Function :=
  all.find? fun f => sameName f.name name && f.least ≤ count && f.greatest.all (count ≤ ·)

end Function
end StoreBridge.Store
