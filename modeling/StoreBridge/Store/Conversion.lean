import StoreBridge.Store.Affinity

/-! What a value counts as where a text, a number, octets or a truth is needed. Null is none of
them; a text or a blob is the number that it begins with. -/
namespace StoreBridge.Store
open Sql Text

/-- The text that a value counts as. -/
def textOf? : Datum → Option String
  | .null => none
  | .text s => some s
  | .integer n => some (integerText n.toInt)
  | .real x => some x.columnText
  | .blob octets => some (Datum.octetsText octets)

/-- The octets that a value counts as. -/
def octetsOf : Datum → List UInt8
  | .blob octets => octets
  | d => ((textOf? d).getD "").toUTF8.toList

/-- The real number that a value counts as. -/
def realOf : Datum → Binary64
  | .null => .ofInt 0
  | .integer n => .ofInt n.toInt
  | .real x => x
  | .text s => (numeral s).real
  | .blob octets => (Numeral.ofChars (octetChars octets)).real

/-- The integer that a value counts as. -/
def integerOf : Datum → Int64
  | .null => 0
  | .integer n => n
  | .real x => x.truncated
  | .text s => (numeral s).bounded
  | .blob octets => (Numeral.ofChars (octetChars octets)).bounded

/-- The number that a value counts as in a calculation. -/
def operandOf : Datum → Datum
  | .text s => (numeral s).operand
  | .blob octets => (Numeral.ofChars (octetChars octets)).operand
  | d => d

/-- Whether a value counts as true; null counts as neither. -/
def truthOf? : Datum → Option Bool
  | .null => none
  | .integer n => some (n != 0)
  | d => some ((realOf d).magnitude != 0)

/-- The value of a truth that may be unknown. -/
def ofTruth? : Option Bool → Datum
  | none => .null
  | some true => .integer 1
  | some false => .integer 0

/-- The number that a text is when it is made one, in whatever class it fits. Whole numbers of up to
fifteen digits are integers however they are written. -/
def Numeral.cast (n : Numeral) : Datum :=
  let bound := 2251799813685248
  let whole? := if n.isRealInFront then none else integer64? n.integer
  match whole?, n.real.toInt? with
  | some i, _ => .integer i
  | none, some i => if -bound ≤ i ∧ i < bound then .integer (Int64.ofInt i) else .real n.real
  | none, none => .real n.real

/-- A value made one of the class that an affinity prefers. -/
def cast (affinity : Affinity) (d : Datum) : Datum :=
  match d, affinity with
  | .null, _ => .null
  | d, .any => .blob (octetsOf d)
  | d, .text => ((textOf? d).map Datum.text).getD .null
  | d, .integer => .integer (integerOf d)
  | d, .real => .real (realOf d)
  | .text s, .numeric => (numeral s).cast
  | .blob octets, .numeric => (Numeral.ofChars (octetChars octets)).cast
  | d, .numeric => d

end StoreBridge.Store
