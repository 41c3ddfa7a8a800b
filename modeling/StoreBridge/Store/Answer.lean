import StoreBridge.Store.Hits
import StoreBridge.Store.Plan

/-! What queries answer. The rows that meet the condition are answered one by one, or, where
functions of all rows are called, together in a single row. What is answered may be freed from
repetitions, put in an order, and cut to a part. -/
namespace StoreBridge.Store
open Sql

/-- An answer: the titles of columns, and rows of values. -/
structure Answer where
  titles : List String := []
  rows : List (List Datum) := []
deriving DecidableEq

/-- A condition, by its place among others, that makes a column equal to something that is the same
for all rows. -/
structure Fixing where
  place : Nat
  position : Nat
  value : Datum

/-- The first condition that fixes a column. -/
def fixing? (outer : Scope) (conditions : List Formula) (position : Nat) :
    Except StoreFault (Option Fixing) :=
  let found := conditions.zipIdx.findSome? fun (e, place) =>
    match e, e.equation? with
    | .binary .equal _ _, some (.column i _ _, other, _) =>
      if i == position && !other.isOfRow then some (place, other) else none
    | _, _ => none
  match found with
  | none => .ok none
  | some (place, e) => do return some ⟨place, position, ← e.valueIn outer⟩

/-- The conditions that ask a report. The last of the columns by which it is asked is only heeded
together with those in front of it. -/
def Report.fixings (r : Report) (outer : Scope) (conditions : List Formula) :
    Except StoreFault (List Fixing) := do
  match ← fixing? outer conditions r.columns.length with
  | none => return []
  | some first =>
    if r.isAsked && r.hasPart then
      return first :: (← fixing? outer conditions (r.columns.length + 1)).toList
    else return [first]

/-- The text that a column of a report is fixed to. -/
def fixedText? (fixings : List Fixing) (position : Nat) : Option String :=
  (fixings.find? (·.position == position)).bind fun f => textOf? f.value

/-- The rows of a report under conditions, and the conditions that are left. A report is not asked
if what is fixed already breaks one of them. -/
def Report.visited (r : Report) (t : Table) (ts : Tables) (outer : Scope)
    (conditions : List Formula) : Except StoreFault (List Scope × List Formula) := do
  let fixings ← r.fixings outer conditions
  let left := (conditions.zipIdx.filter fun (_, place) =>
    fixings.all (·.place != place)).map (·.1)
  let fixed := { outer with values := (List.range t.columns.length).map fun i =>
    ((fixings.find? (·.position == i)).map (·.value)).getD .null }
  let isSettled (e : Formula) : Bool := e.isOfRow && (t.positionsIn e).length == e.named.length &&
    (t.positionsIn e).all fun i => fixings.any (·.position == i)
  if !(← meetsAll (left.filter isSettled) fixed) then return ([], [])
  else
    let first := r.columns.length
    let about := if r.isAsked then fixedText? fixings first else none
    let part := fixedText? fixings (if r.isAsked then first + 1 else first)
    return ((← r.answer ts about part).map (t.scope outer), left.filter fun e => !isSettled e)

namespace QueryPlan

/-- The expressions that are evaluated for what is answered. -/
def formulas (q : QueryPlan) : List Formula :=
  q.columns.map (·.formula) ++ q.order.map (·.formula)

/-- The rows that a query visits, and the conditions that are left to be checked in them. None is
visited if a condition that is the same for all rows does not hold. -/
def visited (q : QueryPlan) (ts : Tables) (outer : Scope) :
    Except StoreFault (List Scope × List Formula) := do
  let conditions := conditionsOf q.condition
  if !(← meetsAll (conditions.filter fun e => !e.isOfRow) outer) then return ([], [])
  else match q.origin with
  | none => return ([outer], conditions)
  | some ⟨t, none⟩ =>
    let needed := (conditions ++ q.formulas).flatMap (·.positions)
    return ((t.visited conditions needed false).map (t.scope outer), conditions)
  | some ⟨t, some r⟩ => r.visited t ts outer conditions

/-- Functions of all rows are called. -/
def isSummary (q : QueryPlan) : Bool :=
  q.formulas.any (·.hasSummary)

/-- Rows of values with the values that they are ordered by. Rows that are answered together have
the other values of the last of them. -/
def evaluated (q : QueryPlan) (outer : Scope) (rows : List Scope) :
    Except StoreFault (List (List Datum × List Datum)) := do
  let columns := q.columns.map (·.formula)
  let keys := q.order.map (·.formula)
  if q.isSummary then
    let last := rows.getLast?.getD { outer with values := [] }
    return [(← Formula.evaluateAll rows last columns, ← Formula.evaluateAll rows last keys)]
  else rows.mapM fun row => do
    return (← Formula.evaluateAll [] row columns, ← Formula.evaluateAll [] row keys)

/-- Two rows of an answer are the same. -/
def areSame (q : QueryPlan) (a b : List Datum) : Bool :=
  (q.columns.zip (a.zip b)).all fun (c, d, e) =>
    isSame (c.formula.collation?.getD .binary) d e

end QueryPlan

/-- The order of two values in a part of an order. -/
def OrderPlan.compare (p : OrderPlan) (d e : Datum) : Ordering :=
  match d, e with
  | .null, .null => .eq
  | .null, _ => if p.nullsFirst then .lt else .gt
  | _, .null => if p.nullsFirst then .gt else .lt
  | d, e =>
    let own := order (p.formula.collation?.getD .binary) d e
    if p.isDescending then own.swap else own

namespace QueryPlan

/-- The order of two rows, given the values that they are ordered by. -/
def compare (q : QueryPlan) (a b : List Datum) : Ordering :=
  (q.order.zip (a.zip b)).foldl (fun o (p, d, e) => o.then (p.compare d e)) .eq

/-- A limit, which has to be a whole number. -/
def limitOf (outer : Scope) : Option Formula → Except StoreFault (Option Int)
  | none => .ok none
  | some f => do
    match asWhole (asNumber (← f.valueIn outer)) with
    | .integer n => return some n.toInt
    | _ => .error .badArgument

/-- The part of some rows that a limit leaves. A limit below zero is none. -/
def cut {α : Type} (limit offset : Option Int) (rows : List α) : List α :=
  let rows := rows.drop (offset.getD 0).toNat
  match limit with
  | some n => if n < 0 then rows else rows.take n.toNat
  | none => rows

/-- What a query answers. -/
def answer (q : QueryPlan) (ts : Tables) (outer : Scope) : Except StoreFault Answer := do
  let limit ← limitOf outer q.limit
  let offset ← limitOf outer q.offset
  let (rows, conditions) ← q.visited ts outer
  let found ← q.evaluated outer (← rows.filterM (meetsAll conditions))
  let distinct := if q.isDistinct then found.eraseDupsBy fun a b => q.areSame a.1 b.1 else found
  let ordered := if q.order.isEmpty then distinct
    else distinct.mergeSort fun a b => q.compare a.2 b.2 != .gt
  return ⟨q.columns.map (·.title), (cut limit offset ordered).map (·.1)⟩

end QueryPlan

/-- What rows of values answer. -/
def answerOfRows (outer : Scope) (rows : List (List Formula)) : Except StoreFault Answer := do
  let width := (rows.head?.map (·.length)).getD 0
  return {
    titles := (List.range width).map fun i => "column" ++ Text.naturalText (i + 1)
    rows := ← rows.mapM (Formula.evaluateAll [] outer) }

end StoreBridge.Store
