import StoreBridge.Store.ForeignKey

/-! Changes of rows, one after the other. Each row is admitted beside those that are there at that
moment; the rows whose place it takes go away. When a change stops at a row, all of it is undone,
unless the rule that was broken says that what came before it stays. -/
namespace StoreBridge.Store
open Sql Text

/-- How far a change has come. -/
structure Progress where
  tables : Tables
  /-- The number of rows that have been changed. -/
  changed : Nat := 0
  /-- The id of the row that was inserted last. -/
  lastId : Option Int64 := none

/-- A new row: the id that is given for it, and the values of its columns, none for those that get
their default. -/
structure NewRow where
  id : Option Datum
  values : List (Option Datum)

namespace Table

/-- The least positive id that is free. Among more ids than there are rows one is. -/
def freeId (rows : List Row) : Int64 :=
  (((List.range (rows.length + 1)).map fun n => Int64.ofNat (n + 1)).find? fun id =>
    rows.all (·.id != id)).getD 1

/-- The id that comes after those in use, or a free one if the greatest of all is in use. -/
def nextId (rows : List Row) : Int64 :=
  match (rows.map fun r => r.id.toInt).max? with
  | none => 1
  | some n => (integer64? (n + 1)).getD (freeId rows)

/-- The id that a value is: it has to be a whole number. -/
def idOf (d : Datum) : Except StoreFault Int64 :=
  match asWhole (asNumber d) with
  | .integer n => .ok n
  | _ => .error .badRowId

/-- The row with an id and values, and with defaults where no value is given. -/
def filled (t : Table) (id : Int64) (values : List (Option Datum)) : Except StoreFault Row := do
  let values ← t.columns.zipIdx.mapM fun (c, i) =>
    match (values[i]?).join with
    | some d => .ok (t.storedIn c d)
    | none => defaultOf c
  t.computed ⟨id, values⟩

end Table

namespace Tables

/-- The row of a counted table in the table of sequences. -/
def sequenceRow? (ts : Tables) (name : String) : Option Row :=
  (ts.find? sequenceTable).bind fun t => t.rows.find? fun row =>
    row.values.head? == some (.text name)

/-- The greatest id that a counted table has had. -/
def greatestId (ts : Tables) (name : String) : Int64 :=
  ((ts.sequenceRow? name).map fun row => integerOf (row.values[1]?.getD .null)).getD 0

/-- The tables in which a counted table has had an id. -/
def counting (ts : Tables) (name : String) (id : Int64) : Tables :=
  match ts.find? sequenceTable with
  | none => ts
  | some t =>
    let values : List Datum :=
      [.text name,
        .integer (if (ts.greatestId name).toInt < id.toInt then id else ts.greatestId name)]
    match ts.sequenceRow? name with
    | some row => ts.replace ((t.withoutRow row.id).withRow { row with values := values })
    | none => ts.replace (t.withRow ⟨Table.nextId t.rows, values⟩)

/-- The id of a new row that is given none. -/
def newId (ts : Tables) (t : Table) : Except StoreFault Int64 :=
  if t.isCounted then
    let greatest := max (ts.greatestId t.name).toInt
      ((t.rows.map fun r => r.id.toInt).foldl max 0)
    match integer64? (greatest + 1) with
    | some id => .ok id
    | none => .error .outOfRange
  else .ok (Table.nextId t.rows)

/-- The tables without some rows of one of them, which have departed. -/
def without (ts : Tables) (t : Table) (rows : List Row) : Tables × List Departure :=
  (ts.replace (rows.foldl (fun t row => t.withoutRow row.id) t),
    rows.map fun row => ⟨t.name, row, none⟩)

end Tables

namespace Progress

/-- The progress after a row has been inserted into a table. -/
def insert (p : Progress) (table : String) (override : Option Resolution) (new : NewRow) :
    Except Halt Progress := do
  let some t := p.tables.find? table | return p
  let id ← halting (match new.id.filter (· != .null) with
    | some d => Table.idOf d
    | none => p.tables.newId t)
  let tables := if t.isCounted then p.tables.counting t.name id else p.tables
  let row ← halting (t.filled id new.values)
  match ← t.outcome override t.rows row with
  | .passedOver => return { p with tables := tables }
  | .admitted row displaced =>
    let (tables, departures) := tables.without t displaced
    let some t := Tables.find? tables table | return p
    let tables ← settled departureLimit (tables.replace (t.withRow row)) departures
    return {
      tables := tables
      changed := p.changed + 1
      lastId := if t.hasIds then some id else p.lastId }

/-- The progress after a row of a table has become another one. A row that has gone away meanwhile
is passed over. -/
def update (p : Progress) (table : String) (override : Option Resolution) (id : Int64)
    (assigned : Table → Row → Except StoreFault Row) : Except Halt Progress := do
  let some t := p.tables.find? table | return p
  let some old := t.row? id | return p
  let row ← halting (assigned t old)
  let row ← halting (t.computed row)
  let others := t.withoutRow id
  match ← t.outcome override others.rows row with
  | .passedOver => return p
  | .admitted row displaced =>
    let (tables, departures) := p.tables.without others displaced
    let some t := Tables.find? tables table | return p
    let tables ← settled departureLimit (tables.replace (t.withRow row))
      (departures ++ [⟨t.name, old, some row⟩])
    return { p with tables := tables, changed := p.changed + 1 }

/-- The progress after a row of a table has gone away. -/
def delete (p : Progress) (table : String) (id : Int64) : Except Halt Progress := do
  let some t := p.tables.find? table | return p
  let some row := t.row? id | return p
  let (tables, departures) := p.tables.without t [row]
  return { p with
    tables := ← settled departureLimit tables departures, changed := p.changed + 1 }

/-- The progress after steps that are taken one after the other, and the fault at which they stop.
-/
def steps {α : Type} (step : Progress → α → Except Halt Progress) (start : Progress) :
    Progress → List α → Option StoreFault × Progress
  | p, [] =>
    if p.tables.areConsistent then (none, p)
    else (some (.referenceFailed ""), { start with changed := 0, lastId := p.lastId })
  | p, a :: rest =>
    match step p a with
    | .ok p => steps step start p rest
    | .error halt =>
      (some halt.fault,
        if halt.keepsChanges then p else { start with changed := 0, lastId := p.lastId })

end Progress
end StoreBridge.Store
