import StoreBridge.Binary64.Arithmetic
import StoreBridge.Store.Collation
import StoreBridge.Store.Numeral

/-! The affinity of a column, which the words of its declared type decide. It says into which class
a value is brought before it is stored, and what a value is taken for when it is compared with the
column. No value is lost on the way: what cannot be brought into the class stays as it is. -/
namespace StoreBridge.Store
open Text

/-- The affinities of columns. -/
inductive Affinity where
  | any | text | numeric | integer | real
deriving DecidableEq

namespace Affinity

/-- A word occurs somewhere in a text. -/
def occursIn (word : List Char) : List Char → Bool
  | [] => word.isEmpty
  | c :: cs => word.isPrefixOf (c :: cs) || occursIn word cs

/-- The affinity of a type: the first rule that holds decides. -/
def ofType (type : String) : Affinity :=
  let cs := (upper type).toList
  let hasAny (words : List String) := words.any fun word => occursIn word.toList cs
  if hasAny ["INT"] then integer
  else if hasAny ["CHAR", "CLOB", "TEXT"] then text
  else if hasAny ["BLOB"] then any
  else if hasAny ["REAL", "FLOA", "DOUB"] then real
  else numeric

/-- Numbers are preferred. -/
def isNumeric : Affinity → Bool
  | any | text => false
  | numeric | integer | real => true

end Affinity

/-- A number as an integer, where it equals one. -/
def asWhole : Datum → Datum
  | .real x => ((wholeOf? x).map Datum.integer).getD (.real x)
  | d => d

/-- A number as a real one. -/
def asReal : Datum → Datum
  | .integer n => .real (.ofInt n.toInt)
  | d => d

/-- A text as the number that it writes. -/
def asNumber : Datum → Datum
  | .text s => (numberOf? s).getD (.text s)
  | d => d

/-- A number as a text. -/
def asText : Datum → Datum
  | .integer n => .text (integerText n.toInt)
  | .real x => .text x.columnText
  | d => d

/-- The value is a text. -/
def isText : Datum → Bool
  | .text _ => true
  | _ => false

namespace Affinity

/-- The value that is stored in a column of the affinity. A whole number is stored as an integer in
a column of reals, too, and becomes real when it is read: so zero has no sign there. -/
def stored : Affinity → Datum → Datum
  | integer, d => asWhole (asNumber d)
  | numeric, d => asWhole (asNumber d)
  | real, d => asReal (asWhole (asNumber d))
  | text, d => asText d
  | any, d => d

/-- What two values are taken for when they are compared with an affinity: numbers are looked for in
texts, or numbers are written as texts if there is a text among the two. -/
def compared (affinity : Affinity) (d e : Datum) : Datum × Datum :=
  if affinity.isNumeric then (asNumber d, asNumber e)
  else if affinity == text && (isText d || isText e) then (asText d, asText e)
  else (d, e)

/-- The affinity with which two values are compared. If both have one and one of them is numeric,
numbers are looked for; if only one has one, that counts. -/
def ofComparison : Option Affinity → Option Affinity → Affinity
  | some a, some b => if a.isNumeric || b.isNumeric then numeric else any
  | some a, none => a
  | none, some b => b
  | none, none => any

end Affinity

/-- The class of a value in the order of all values: null, numbers, texts and blobs. -/
def rank : Datum → Nat
  | .null => 0
  | .integer _ | .real _ => 1
  | .text _ => 2
  | .blob _ => 3

/-- The order of two values. Numbers are ordered by what they count. -/
def order (c : Collation) : Datum → Datum → Ordering
  | .integer a, .integer b => compareOfLessAndEq a.toInt b.toInt
  | .integer a, .real y => y.compareInt a.toInt
  | .real x, .integer b => (x.compareInt b.toInt).swap
  | .real x, .real y => x.compare y
  | .text s, .text t => c.compare s t
  | .blob a, .blob b => compareOfLessAndEq (a.map UInt8.toNat) (b.map UInt8.toNat)
  | d, e => compareOfLessAndEq (rank d) (rank e)

/-- The values are equal. -/
def isSame (c : Collation) (d e : Datum) : Bool :=
  order c d e == .eq

/-- A value as it arrives in the store, where an undefined number is null. -/
def received : Datum → Datum
  | .real x => if x.isNaN then .null else .real x
  | d => d

end StoreBridge.Store
