import StoreBridge.Store.Path

/-! The rows that meet a condition. Its parts are checked one after the other, in the order in which
the rows are visited, and nothing of a row is evaluated after a part that does not hold of it. -/
namespace StoreBridge.Store
open Sql

/-- The parts of a condition, all of which have to hold. -/
def conditionsOf (condition : Option Formula) : List Formula :=
  (condition.map (·.conjuncts)).getD []

/-- A part of a condition holds of a row. Where the ids have to be equal to something that is the
same for all rows, only the integer that it counts as is looked for. -/
def meets (scope : Scope) (e : Formula) : Except StoreFault Bool :=
  match e.equation? with
  | some (.rowId, other, _) =>
    if other.isOfRow then e.holds scope
    else do
      match asWhole (asNumber (← other.valueIn scope)) with
      | .integer n => return scope.id == .integer n
      | _ => return false
  | _ => e.holds scope

/-- All parts of a condition hold of a row. -/
def meetsAll (conditions : List Formula) (scope : Scope) : Except StoreFault Bool :=
  conditions.allM (meets scope)

/-- The ids of the rows that a change is about, given the expressions that it evaluates in them. -/
def Table.hits (t : Table) (outer : Scope) (condition : Option Formula)
    (evaluated : List Formula) : Except StoreFault (List Int64) := do
  let conditions := conditionsOf condition
  let needed := (conditions ++ evaluated).flatMap (·.positions)
  let rows ← (t.visited conditions needed true).filterM fun row =>
    meetsAll conditions (t.scope outer row)
  return rows.map (·.id)

end StoreBridge.Store
