import StoreBridge.Store.Answer

/-! The store: tables, and what is known of the last changes. A text is first prepared, which
settles that it can be read and that the names in it mean something, and then run with values for
its placeholders. A text that cannot be prepared leaves the store as it was. -/
namespace StoreBridge
open Sql Text

/-- A store. -/
structure Store where
  tables : Store.Tables := []
  /-- The next page that is free; the first one describes the store. -/
  nextPage : Nat := 2
  /-- The number of rows that the last change concerned. -/
  changes : Nat := 0
  /-- The number of rows that all changes concerned. -/
  totalChanges : Nat := 0
  /-- The id of the row that was inserted last. -/
  lastId : Int64 := 0

namespace Store

/-- A name is kept for the tables that the store makes itself. -/
def isReserved (name : String) : Bool :=
  sameName (String.ofList (name.toList.take 7)) "sqlite_"

/-- The store with one more table. -/
def withDefinition (store : Store) (d : Definition) : Except StoreFault Store := do
  let (t, page) ← Table.ofDefinition d store.nextPage
  return { store with tables := store.tables ++ [t], nextPage := page }

/-- The definition of the table that keeps the greatest ids of counted tables. -/
def sequenceDefinition : String :=
  "CREATE TABLE " ++ sequenceTable ++ "(name,seq)"

/-- The store with the table of sequences, if a counted table needs it that is not there yet. -/
def withSequences (store : Store) : Except StoreFault Store :=
  if store.tables.any (·.isCounted) && (store.tables.find? sequenceTable).isNone then
    match Definition.ofText? sequenceDefinition with
    | some d => store.withDefinition d
    | none => .error .unreadableStatement
  else .ok store

/-- The store with one more table, which a text defines. Its name must neither be taken nor be kept
for the store itself. -/
def withTable (store : Store) (definition : String) : Except StoreFault Store :=
  match Definition.ofText? definition with
  | none => .error .unreadableStatement
  | some d =>
    if isReserved d.name || (store.tables.find? d.name).isSome then .error (.badDefinition d.name)
    else do (← store.withDefinition d).withSequences

/-- The store with tables that are defined one after the other. -/
def create (definitions : List String) : Except StoreFault Store :=
  definitions.foldlM withTable {}

/-- A request that has a plan. -/
structure Prepared where
  request : Request
  plan : Plan

/-- The placeholders of a request, each once, in the order in which they first occur. -/
def Prepared.placeholders (p : Prepared) : List Placeholder :=
  p.request.placeholders

/-- The request that a text is, with its plan. -/
def prepare (store : Store) (text : String) : Except StoreFault Prepared :=
  match Request.ofText? text with
  | none => .error .unreadableStatement
  | some request => do return ⟨request, ← plan store.tables request.instruction⟩

/-- What the store itself is asked for in expressions. -/
def fact (store : Store) : String → Option Datum
  | "changes" => some (count store.changes)
  | "total_changes" => some (count store.totalChanges)
  | "last_insert_rowid" => some (.integer store.lastId)
  | "sqlite_version" => some (.text "3.41.2")
  | _ => none

/-- The values of placeholders. -/
abbrev Binding := List (Placeholder × Datum)

/-- What the expressions of a request are evaluated in outside of rows. -/
def scope (store : Store) (request : Request) (binding : Binding) : Scope where
  bound v := received (request.valueOf binding v)
  fact := store.fact

/-- The row that values for targets make. Of two values for one column the first counts, and of two
for the id the last. -/
def newRow (t : Table) (targets : List Target) (values : List Datum) : NewRow :=
  let given := targets.zip values
  { id := given.reverse.lookup .rowId
    values := (List.range t.columns.length).map fun i => given.lookup (.column i) }

/-- The row of a table after assignments, all of which are evaluated in the row as it was. -/
def assigned (outer : Scope) (assignments : List (Target × Formula)) (t : Table) (row : Row) :
    Except StoreFault Row :=
  assignments.foldlM (fun new (target, f) => do
    let d ← f.valueIn (t.scope outer row)
    match target with
    | .rowId => return { new with id := ← Table.idOf d }
    | .column i =>
      let stored := (t.columns[i]?.map (t.storedIn · d)).getD d
      return { new with values := new.values.set i stored }) row

/-- Changes that are made one after the other, and the fault at which they stop. -/
def changing {α : Type} (store : Store) (found : Except StoreFault (List α))
    (step : Progress → α → Except Halt Progress) : Option StoreFault × Progress :=
  let start : Progress := { tables := store.tables }
  match found with
  | .error fault => (some fault, start)
  | .ok found => Progress.steps step start start found

/-- The ids of the rows of a table that a change is about. -/
def hits (store : Store) (outer : Scope) (table : String) (condition : Option Formula)
    (evaluated : List Formula) : Except StoreFault (List Int64) := do
  (← changeable store.tables table).hits outer condition evaluated

/-- The changes of a plan, and the fault at which they stop. -/
def changed (store : Store) (outer : Scope) : Plan → Option StoreFault × Progress
  | .insert table resolution targets rows =>
    store.changing (changeable store.tables table |>.map fun t => rows.map (t, ·))
      fun p (t, row) => do
        let values ← halting (Formula.evaluateAll [] outer row)
        p.insert table resolution (newRow t targets values)
  | .update table resolution assignments condition =>
    store.changing (store.hits outer table condition (assignments.map (·.2)))
      fun p id => p.update table resolution id (assigned outer assignments)
  | .delete table condition =>
    store.changing (store.hits outer table condition []) fun p id => p.delete table id
  | _ => (none, { tables := store.tables })

/-- The store after changes. -/
def after (store : Store) (p : Progress) : Store :=
  { store with
    tables := p.tables
    changes := p.changed
    totalChanges := store.totalChanges + p.changed
    lastId := p.lastId.getD store.lastId }

/-- What a request answers when it is run, and the store after it. -/
def run (store : Store) (binding : Binding) (p : Prepared) : Except StoreFault Answer × Store :=
  let outer := store.scope p.request binding
  match p.plan with
  | .query q => (q.answer store.tables outer, store)
  | .values rows => (answerOfRows outer rows, store)
  | plan =>
    match store.changed outer plan with
    | (none, progress) => (.ok {}, store.after progress)
    | (some fault, progress) => (.error fault, store.after progress)

end Store
end StoreBridge
