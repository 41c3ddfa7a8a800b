import StoreBridge.Sql.Expression
import StoreBridge.Store.Function

/-! The values of expressions in which the names have been looked up. Truths may be unknown, which
is null; calculations are made with integers as long as their results are in range, and with real
numbers otherwise. -/
namespace StoreBridge.Store
open Sql Text

/-- What a name refers to in a row. A name in quotes that refers to nothing stands for itself. -/
inductive Reference where
  | column (position : Nat) (affinity : Affinity) (collation : Collation)
  | rowId
  | word (text : String)
deriving DecidableEq

/-- An expression in which the names have been looked up. -/
abbrev Formula := Expression Reference

/-- What expressions are evaluated in: a row with its id, the values of variables, and what the
store itself is asked for. -/
structure Scope where
  id : Datum := .null
  values : List Datum := []
  bound : Variable → Datum := fun _ => .null
  fact : String → Option Datum := fun _ => none

/-- The value that a name refers to. -/
def Scope.value (scope : Scope) : Reference → Datum
  | .column i _ _ => scope.values[i]?.getD .null
  | .rowId => scope.id
  | .word s => .text s

namespace Formula

/-- The affinity of the values of an expression, if they have one. -/
def affinity? : Formula → Option Affinity
  | .name (.column _ a _) => some a
  | .name .rowId => some .integer
  | .cast _ type => some (.ofType type)
  | .collate e _ => affinity? e
  | _ => none

mutual

/-- The collation that is named somewhere in an expression. -/
def namedCollation? : Formula → Option Collation
  | .collate _ c => Collation.ofName? c
  | .unary _ e => namedCollation? e
  | .cast e _ => namedCollation? e
  | .binary _ a b => (namedCollation? a).or (namedCollation? b)
  | .between e a b =>
    (namedCollation? e).or ((namedCollation? a).or (namedCollation? b))
  | .among e items => (namedCollation? e).or (firstNamed? items)
  | .choice parts => firstNamed? parts
  | .call _ arguments => firstNamed? arguments
  | _ => none

/-- The collation that is named first in some expressions. -/
def firstNamed? : List Formula → Option Collation
  | [] => none
  | e :: rest => (namedCollation? e).or (firstNamed? rest)

end

/-- The collation of the values of an expression, if they have one: that of a column, or one that is
named. -/
def collation? : Formula → Option Collation
  | .name (.column _ _ c) => some c
  | .unary .plus e => collation? e
  | .cast e _ => collation? e
  | e => namedCollation? e

/-- The collation with which the values of two expressions are compared: one that is named counts
first, and then that of the left side. -/
def commonCollation (a b : Formula) : Collation :=
  ((namedCollation? a).or ((namedCollation? b).or ((collation? a).or (collation? b)))).getD .binary

/-- The values of two expressions as they are compared. -/
def paired (a b : Formula) (d e : Datum) : Datum × Datum :=
  (Affinity.ofComparison (affinity? a) (affinity? b)).compared d e

/-- The order of the values of two expressions, neither of which is null. -/
def orderOf (a b : Formula) (d e : Datum) : Ordering :=
  let (d, e) := paired a b d e
  order (commonCollation a b) d e

end Formula

/-- Both hold. -/
def both : Option Bool → Option Bool → Option Bool
  | some false, _ | _, some false => some false
  | some true, some true => some true
  | _, _ => none

/-- One of two holds. -/
def either : Option Bool → Option Bool → Option Bool
  | some true, _ | _, some true => some true
  | some false, some false => some false
  | _, _ => none

/-- A real number, if there is one; else null. -/
def ofReal? (x : Option Binary64) : Datum :=
  (x.map fun x => received (.real x)).getD .null

/-- A calculation with two numbers: with integers if both are and the result is in range, and with
real numbers otherwise. -/
def calculated (onIntegers : Int → Int → Option Int)
    (onReals : Binary64 → Binary64 → Option Binary64) (d e : Datum) : Datum :=
  match operandOf d, operandOf e with
  | .null, _ | _, .null => .null
  | .integer a, .integer b =>
    match (onIntegers a.toInt b.toInt).bind integer64? with
    | some n => .integer n
    | none => ofReal? (onReals (.ofInt a.toInt) (.ofInt b.toInt))
  | d, e => ofReal? (onReals (realOf d) (realOf e))

/-- The remainder of a division of the integers that two values count as. -/
def remainder (d e : Datum) : Datum :=
  match operandOf d, operandOf e with
  | .null, _ | _, .null => .null
  | x, y =>
    let a := (integerOf d).toInt
    let b := (integerOf e).toInt
    if b = 0 then .null
    else match x, y with
      | .integer _, .integer _ => .integer (Int64.ofInt (Int.tmod a b))
      | _, _ => .real (.ofInt (Int.tmod a b))

/-- An operation on the bits of the integers that two values count as. -/
def onBits (f : Int64 → Int64 → Int64) (d e : Datum) : Datum :=
  if d == .null || e == .null then .null else .integer (f (integerOf d) (integerOf e))

/-- The bits of an integer, moved to the left by so many places, or to the right by as many if the
number is below zero. Moved to the right they keep the sign. -/
def shifted (n : Int64) (places : Int) : Int64 :=
  if 0 ≤ places then
    if places < 64 then Int64.ofInt (n.toInt * Nat.pow 2 places.toNat) else 0
  else if -64 < places then Int64.ofInt (Int.fdiv n.toInt (Nat.pow 2 (-places).toNat))
  else if n.toInt < 0 then -1 else 0

/-- Two values as one text. -/
def joined (d e : Datum) : Datum :=
  match textOf? d, textOf? e with
  | some s, some t => .text (s ++ t)
  | _, _ => .null

/-- The number of decimal digits, with a sign. -/
def ofNatural (isNegative : Bool) (n : Nat) : Datum :=
  match integer64? (if isNegative then -(n : Int) else n) with
  | some i => .integer i
  | none => .real (.read isNegative (.ofDigits (natural n) [] 0))

/-- The integer with certain bits. -/
def ofBits (n : UInt64) : Int64 :=
  n.toInt64

/-- The value with its sign changed. -/
def negated : Datum → Datum :=
  calculated (fun a b => some (a - b)) (fun x y => x.add? y.neg) (.integer 0)

/-- The value of an operation with one operand. -/
def unaryValue (op : UnaryOperator) (d : Datum) : Datum :=
  match op with
  | .minus => negated d
  | .plus => d
  | .complement => onBits (fun n _ => ~~~n) d (.integer 0)
  | .not => ofTruth? ((truthOf? d).map not)
  | .isNull => Function.ofBool (d == .null)
  | .notNull => Function.ofBool (d != .null)

/-- The truth of a comparison of two values, given whether their order fits. -/
def comparison (a b : Formula) (fits : Ordering → Bool) (d e : Datum) : Datum :=
  if d == .null || e == .null then .null
  else Function.ofBool (fits (Formula.orderOf a b d e))

/-- Two values are the same, or both are null. -/
def identical (a b : Formula) (d e : Datum) : Bool :=
  if d == .null || e == .null then d == e else Formula.orderOf a b d e == .eq

/-- The value of an operation with two operands. -/
def binaryValue (op : BinaryOperator) (a b : Formula) (d e : Datum) : Datum :=
  match op with
  | .and => ofTruth? (both (truthOf? d) (truthOf? e))
  | .or => ofTruth? (either (truthOf? d) (truthOf? e))
  | .equal => comparison a b (· == .eq) d e
  | .unequal => comparison a b (· != .eq) d e
  | .less => comparison a b (· == .lt) d e
  | .lessEqual => comparison a b (· != .gt) d e
  | .greater => comparison a b (· == .gt) d e
  | .greaterEqual => comparison a b (· != .lt) d e
  | .is =>
    match b with
    | .truth t => Function.ofBool (truthOf? d == some t)
    | _ => Function.ofBool (identical a b d e)
  | .isNot =>
    match b with
    | .truth t => Function.ofBool (truthOf? d != some t)
    | _ => Function.ofBool (!identical a b d e)
  | .bitAnd => onBits (· &&& ·) d e
  | .bitOr => onBits (· ||| ·) d e
  | .shiftLeft => onBits (fun n places => shifted n places.toInt) d e
  | .shiftRight => onBits (fun n places => shifted n (-places.toInt)) d e
  | .add => calculated (fun a b => some (a + b)) Binary64.add? d e
  | .subtract => calculated (fun a b => some (a - b)) (fun x y => x.add? y.neg) d e
  | .multiply => calculated (fun a b => some (a * b)) Binary64.multiply? d e
  | .divide =>
    calculated (fun a b => if b = 0 then none else some (Int.tdiv a b)) Binary64.divide? d e
  | .remainder => remainder d e
  | .concatenate => joined d e

/-- Whether a value is one of some; unknown if it is not, but may be because of nulls. -/
def memberOf (e : Formula) (d : Datum) (items : List (Formula × Datum)) : Datum :=
  let affinity := (Formula.affinity? e).getD .any
  let collation := (Formula.collation? e).getD .binary
  let isHit (item : Datum) : Bool :=
    let (d, item) := affinity.compared d item
    isSame collation d item
  if items.isEmpty then .integer 0
  else if d == .null then .null
  else if items.any fun (_, item) => item != .null && isHit item then .integer 1
  else if items.any fun (_, item) => item == .null then .null
  else .integer 0

/-- The functions of all rows together that take one argument. -/
def summaryNames : List String :=
  ["COUNT", "SUM", "TOTAL", "AVG", "MIN", "MAX", "GROUP_CONCAT"]

/-- A call is one of a function of all rows. -/
def isSummary (function : String) (count : Nat) : Bool :=
  summaryNames.contains (upper function) &&
    (count == 1 || (upper function == "GROUP_CONCAT" && count == 2))

/-- The sum of values, none of which is null: of integers an integer, which has to be in range. -/
def sumOf (ds : List Datum) : Except StoreFault Datum :=
  let whole? := ds.mapM fun d =>
    match asNumber d with
    | .integer n => some n.toInt
    | _ => none
  match whole? with
  | some ns =>
    match integer64? (ns.foldl (· + ·) 0) with
    | some n => .ok (.integer n)
    | none => .error .outOfRange
  | none => .ok (ofReal? (ds.foldlM (fun sum d => sum.add? (realOf d)) (Binary64.ofInt 0)))

/-- The sum of values as a real number. -/
def totalOf (ds : List Datum) : Option Binary64 :=
  ds.foldlM (fun sum d => sum.add? (realOf d)) (Binary64.ofInt 0)

/-- The value of a function of all rows, given its arguments in each of them. -/
def summary (function : String) (c : Collation) (rows : List (List Datum)) :
    Except StoreFault Datum :=
  let rows := rows.filter fun ds => Function.at? ds 0 != .null
  let ds := rows.map (Function.at? · 0)
  match upper function with
  | "COUNT" => .ok (Function.ofCount ds.length)
  | "SUM" => if ds.isEmpty then .ok .null else sumOf ds
  | "TOTAL" => .ok (ofReal? (totalOf ds))
  | "AVG" =>
    .ok (if ds.isEmpty then .null
      else ofReal? ((totalOf ds).bind (·.divide? (.ofInt ds.length))))
  | "MIN" => .ok (Function.extreme c false ds)
  | "MAX" => .ok (Function.extreme c true ds)
  | _ =>
    let text (d : Datum) : List Char := ((textOf? d).getD "").toList
    let chars := match rows with
      | [] => []
      | first :: rest => text (Function.at? first 0) ++ rest.flatMap fun ds =>
        text (ds[1]?.getD (.text ",")) ++ text (Function.at? ds 0)
    .ok (if ds.isEmpty then .null else Function.ofChars chars)

/-- The beginning of the count of time, which is the present of a store without a clock. -/
def present : String → Option Datum
  | "CURRENT_DATE" => some (.text "1970-01-01")
  | "CURRENT_TIME" => some (.text "00:00:00")
  | "CURRENT_TIMESTAMP" => some (.text "1970-01-01 00:00:00")
  | _ => none

/-- The value of a call. -/
def called (scope : Scope) (function : String) (arguments : List Formula) (ds : List Datum) :
    Except StoreFault Datum :=
  match (present function).or (scope.fact (lower function)) with
  | some d => .ok d
  | none =>
    match Function.find? function ds.length with
    | some f => f.apply ((arguments.findSome? Formula.collation?).getD .binary) ds
    | none => .error (.noSuchFunction function)

namespace Formula

mutual

/-- The value of an expression in a row of a group. Functions of all rows see the whole group. -/
def evaluate (group : List Scope) (scope : Scope) : Formula → Except StoreFault Datum
  | .datum d => .ok d
  | .natural n => .ok (ofNatural false n)
  | .bits n => .ok (.integer (ofBits n))
  | .truth b => .ok (Function.ofBool b)
  | .parameter v => .ok (scope.bound v)
  | .name r => .ok (scope.value r)
  | .unary .minus (.natural n) => .ok (ofNatural true n)
  | .unary .minus (.datum (.real x)) => .ok (.real x.neg)
  | .unary op e => do return unaryValue op (← evaluate group scope e)
  | .binary op a b => do
    let d ← evaluate group scope a
    return binaryValue op a b d (← evaluate group scope b)
  | .between e least greatest => do
    let d ← evaluate group scope e
    let least' ← evaluate group scope least
    let greatest' ← evaluate group scope greatest
    return ofTruth? (both (truthOf? (comparison e least (· != .lt) d least'))
      (truthOf? (comparison e greatest (· != .gt) d greatest')))
  | .among e items => do
    let d ← evaluate group scope e
    return memberOf e d (items.zip (← evaluateAll group scope items))
  | .choice parts => chosen group scope parts
  | .cast e type => do return Store.cast (.ofType type) (← evaluate group scope e)
  | .collate e _ => evaluate group scope e
  | .call function arguments => do
    if isSummary function arguments.length then
      let rows ← group.mapM fun row => evaluateAll [] row arguments
      summary function ((arguments.findSome? collation?).getD .binary) rows
    else called scope function arguments (← evaluateAll group scope arguments)
  | .callOfRows _ => .ok (Function.ofCount group.length)

/-- The values of some expressions. -/
def evaluateAll (group : List Scope) (scope : Scope) :
    List Formula → Except StoreFault (List Datum)
  | [] => .ok []
  | e :: rest => do
    let d ← evaluate group scope e
    return d :: (← evaluateAll group scope rest)

/-- The value of a choice: that of the first part whose condition holds. -/
def chosen (group : List Scope) (scope : Scope) : List Formula → Except StoreFault Datum
  | [] => .ok .null
  | [otherwise] => evaluate group scope otherwise
  | condition :: result :: rest => do
    if truthOf? (← evaluate group scope condition) = some true then evaluate group scope result
    else chosen group scope rest

end

/-- The value of an expression in a single row. -/
def valueIn (scope : Scope) (e : Formula) : Except StoreFault Datum :=
  evaluate [] scope e

/-- A condition holds of a row. -/
def holds (scope : Scope) (e : Formula) : Except StoreFault Bool := do
  return truthOf? (← e.valueIn scope) == some true

end Formula
end StoreBridge.Store
