import StoreBridge.Store.Admission

/-! References between tables. The columns with which rows are referred to have to be a key of the
other table. A row that refers to none is refused, unless one of its values is null; and when a row
goes away or gets another key, the rows that refer to it follow it in the way that is declared. -/
namespace StoreBridge.Store
open Sql Text

namespace ForeignKey

/-- The positions of the columns that a reference is to: those that it names, or the primary key. -/
def targetPositions? (fk : ForeignKey) (parent : Table) : Option (List Nat) :=
  if fk.target.columns.isEmpty then
    match parent.idColumn with
    | some i => some [i]
    | none => parent.primaryKey?.map fun key => key.columns.map (·.position)
  else fk.target.columns.mapM parent.position?

/-- The columns are a key of a table, compared in the way of the columns themselves. -/
def areKey (parent : Table) (positions : List Nat) : Bool :=
  (parent.idColumn.any fun i => positions == [i]) || parent.keys.any fun key =>
    key.columns.length == positions.length &&
      key.columns.all fun c => positions.contains c.position &&
        parent.columns[c.position]?.any fun own => own.collation == c.collation

/-- The positions of the columns that a reference is to, if they are a key. -/
def target? (fk : ForeignKey) (parent : Table) : Option (List Nat) := do
  let positions ← fk.targetPositions? parent
  if positions.length = fk.positions.length ∧ areKey parent positions then some positions
  else none

/-- Two lists of values are the same as a key of a table. -/
def isTarget (parent : Table) (positions : List Nat) (child target : List Datum) : Bool :=
  (positions.zip (child.zip target)).all fun (i, d, e) =>
    match parent.columns[i]? with
    | some c =>
      let affinity := if parent.idColumn = some i then .integer else c.affinity
      d != .null && isSame c.collation (affinity.stored d) e
    | none => false

/-- The values with which a row refers to another one. -/
def valuesIn (fk : ForeignKey) (child : Table) (row : Row) : List Datum :=
  fk.positions.map (child.valueAt row)

/-- A row refers to one that is there, or to none. It can refer to itself with values that are the
same as they stand. -/
def isSatisfied (fk : ForeignKey) (child parent : Table) (positions : List Nat) (row : Row) :
    Bool :=
  let values := fk.valuesIn child row
  values.contains .null || parent.rows.any fun r =>
    let target := positions.map (parent.valueAt r)
    if child.name == parent.name && r.id == row.id then
      (values.zip target).all fun (d, e) => isSame .binary d e
    else isTarget parent positions values target

/-- The rows that refer to one with these values in its key. -/
def referring (fk : ForeignKey) (child parent : Table) (positions : List Nat)
    (target : List Datum) : List Row :=
  child.rows.filter fun row => isTarget parent positions (fk.valuesIn child row) target

end ForeignKey

/-- The tables of a store. -/
abbrev Tables := List Table

/-- The name of the table that keeps the greatest ids of counted tables. -/
def sequenceTable : String := "sqlite_sequence"

namespace Tables

/-- The table with a name, in any case. -/
def find? (ts : Tables) (name : String) : Option Table :=
  List.find? (fun t => sameName t.name name) ts

/-- The tables with one of them replaced. -/
def replace (ts : Tables) (t : Table) : Tables :=
  ts.map fun u => if sameName u.name t.name then t else u

/-- The references to a table, each with the table that they are in. -/
def referencesTo (ts : Tables) (parent : Table) : List (Table × ForeignKey) :=
  ts.flatMap fun child => (child.references.filter fun fk =>
    sameName fk.target.table parent.name).map fun fk => (child, fk)

/-- Every row of a table refers to one that is there, or to none. -/
def isConsistent (ts : Tables) (child : Table) : Bool :=
  child.references.all fun fk =>
    match ts.find? fk.target.table with
    | none => true
    | some parent =>
      match fk.target? parent with
      | none => true
      | some positions => child.rows.all (fk.isSatisfied child parent positions)

/-- Every row refers to one that is there, or to none. -/
def areConsistent (ts : Tables) : Bool :=
  ts.all ts.isConsistent

end Tables

/-- A row that has gone away, or has become another one. -/
structure Departure where
  table : String
  old : Row
  new : Option Row

/-- What happens to the rows that refer to a row that has departed. -/
def Departure.action (d : Departure) (fk : ForeignKey) : ReferenceAction :=
  if d.new.isSome then fk.target.onUpdate else fk.target.onDelete

/-- The values that rows get which referred to a row that has departed; none if they go away, too.
-/
def Departure.successors? (d : Departure) (fk : ForeignKey) (child parent : Table)
    (positions : List Nat) : ReferenceAction → Except StoreFault (Option (List Datum))
  | .cascade => .ok (d.new.map fun row => positions.map (parent.valueAt row))
  | .setDefault => do
    let values ← fk.positions.mapM fun i =>
      match child.columns[i]? with
      | some c => Table.defaultOf c
      | none => .ok .null
    return some values
  | _ => .ok (some (fk.positions.map fun _ => .null))

/-- A row with values at some positions. -/
def withValues (t : Table) (row : Row) (positions : List Nat) (values : List Datum) : Row :=
  (positions.zip values).foldl (fun row (i, d) =>
    match t.columns[i]? with
    | none => row
    | some c =>
      if t.idColumn = some i then
        match asWhole (asNumber d) with
        | .integer n => { row with id := n }
        | _ => row
      else { row with values := row.values.set i (t.storedIn c d) }) row

/-- The tables after the rows of one table have followed a row that has departed, and what has
departed with them. -/
def followed (ts : Tables) (d : Departure) (parent child : Table) (fk : ForeignKey) :
    Except Halt (Tables × List Departure) := do
  let some positions := fk.target? parent | return (ts, [])
  let key := positions.map (parent.valueAt d.old)
  let isChanged := d.new.all fun new =>
    !ForeignKey.isTarget parent positions (positions.map (parent.valueAt new)) key
  let action := d.action fk
  if !isChanged || action == .none || action == .restrict then return (ts, [])
  else
    let values ← halting (d.successors? fk child parent positions action)
    (fk.referring child parent positions key).foldlM (fun (ts, departures) row => do
      let some child := Tables.find? ts child.name | return (ts, departures)
      let others := child.withoutRow row.id
      match values with
      | none => return (ts.replace others, departures ++ [⟨child.name, row, none⟩])
      | some values =>
        let row' ← halting (child.computed (withValues child row fk.positions values))
        match ← child.outcome (some .abort) others.rows row' with
        | .passedOver => return (ts, departures)
        | .admitted row' _ =>
          return (ts.replace (others.withRow row'), departures ++ [⟨child.name, row, some row'⟩]))
      (ts, [])

/-- The greatest number of departures that one change may lead to. -/
def departureLimit : Nat := 1000

/-- The tables after all rows have followed those that have departed, in at most so many steps. -/
def settled : (steps : Nat) → Tables → List Departure → Except Halt Tables
  | _, ts, [] => .ok ts
  | 0, _, _ => .error ⟨.tooLarge, false⟩
  | steps + 1, ts, d :: rest => do
    let some parent := ts.find? d.table | settled steps ts rest
    let (ts, departures) ← (ts.referencesTo parent).foldlM (fun (ts, departures) (child, fk) => do
      let some child := Tables.find? ts child.name | return (ts, departures)
      let (ts, more) ← followed ts d parent child fk
      return (ts, departures ++ more)) (ts, [])
    settled steps ts (rest ++ departures)

end StoreBridge.Store
