import StoreBridge.Sql.Request
import StoreBridge.Store.Alteration
import StoreBridge.Store.Change
import StoreBridge.Store.Creation
import StoreBridge.Store.Description
import StoreBridge.Store.Path

/-! Plans: what the instructions come to when the names in them have been looked up among the tables
of a store. An instruction with a name that means nothing has no plan. -/
namespace StoreBridge.Store
open Sql Text

/-- Where the rows of a query come from: a table with its rows, or a report that is asked when the
query is run. -/
structure Origin where
  table : Table
  report : Option Report := none

/-- A column of an answer. -/
structure AnswerColumn where
  title : String
  formula : Formula

/-- A part of an order. -/
structure OrderPlan where
  formula : Formula
  isDescending : Bool
  nullsFirst : Bool

/-- The plan of a query. -/
structure QueryPlan where
  origin : Option Origin
  columns : List AnswerColumn
  condition : Option Formula
  isDistinct : Bool
  order : List OrderPlan
  limit : Option Formula
  offset : Option Formula

/-- What is assigned in an update: to the ids, or to a column. -/
inductive Target where
  | rowId
  | column (position : Nat)
deriving DecidableEq

/-- A plan. -/
inductive Plan where
  | query (q : QueryPlan)
  | values (rows : List (List Formula))
  | insert (table : String) (resolution : Option Resolution) (targets : List Target)
      (rows : List (List Formula))
  | update (table : String) (resolution : Option Resolution) (assignments : List (Target × Formula))
      (condition : Option Formula)
  | delete (table : String) (condition : Option Formula)

/-- The table that a query is about: one of the store, or one in which it describes itself. -/
def origin (ts : Tables) (name : String) : Except StoreFault Origin :=
  match (ts.find? name).or (schemaTable? ts name) with
  | some t => .ok ⟨t, none⟩
  | none =>
    match Report.find? name with
    | some r => .ok ⟨r.table name, some r⟩
    | none => .error (.noSuchTable name)

/-- The table that a change is about. -/
def changeable (ts : Tables) (name : String) : Except StoreFault Table :=
  match ts.find? name with
  | some t => .ok t
  | none => .error (.noSuchTable name)

/-- What can be named in an instruction about a table. -/
def surroundingsOf (source : Source) (t : Table) : Surroundings where
  titles := match source.title with
    | some title => [title]
    | none => [t.name]
  columns := t.references?
  hasIds := t.hasIds

/-- What a column of an answer is called: as the table calls it, or else as it is written. -/
def titleOf (t : Option Table) (written : String) : Formula → String
  | .name (.column i _ _) => ((t.bind fun t => t.columns[i]?).map (·.name)).getD written
  | .name .rowId =>
    (t.bind fun t => t.idColumn.bind fun i => (t.columns[i]?).map (·.name)).getD "rowid"
  | _ => written

/-- All columns of a table that are not hidden. -/
def allColumns (t : Table) : List AnswerColumn :=
  (t.columns.zip t.references?).filterMap fun (c, _, r) =>
    if c.isHidden then none else some ⟨c.name, .name r⟩

/-- The columns of an answer that a column of a query stands for. -/
def answerColumns (s : Surroundings) (t : Option Table) :
    ResultColumn → Except StoreFault (List AnswerColumn)
  | .all =>
    match t with
    | some t => .ok (allColumns t)
    | none => .error .unreadableStatement
  | .allOf name =>
    match t with
    | some t =>
      if s.titles.any (sameName name) then .ok (allColumns t) else .error (.noSuchTable name)
    | none => .error (.noSuchTable name)
  | .item e title source => do
    let f ← s.formula e
    return [⟨title.getD (titleOf t source f), f⟩]

/-- The greatest number of columns of an answer, of parts of its order, and of assignments. -/
def widthLimit : Nat := 2000

/-- What an order is by: a column of the answer, by its number or its title, or an expression. -/
def orderFormula (s : Surroundings) (columns : List AnswerColumn) (e : Expression Name) :
    Except StoreFault Formula :=
  match e with
  | .natural n =>
    match if n = 0 then none else columns[n - 1]? with
    | some c => .ok c.formula
    | none => .error .outOfRange
  | .name ⟨none, name, _⟩ =>
    match columns.find? fun c => sameName c.title name with
    | some c => .ok c.formula
    | none => s.formula e
  | e => s.formula e

/-- The plan of an order. -/
def orderPlan (s : Surroundings) (columns : List AnswerColumn) (p : OrderPart) :
    Except StoreFault OrderPlan := do
  return ⟨← orderFormula s columns p.key, p.isDescending, p.nullsFirst.getD (!p.isDescending)⟩

/-- An expression that may be missing, with its names looked up. -/
def Surroundings.formula? (s : Surroundings) :
    Option (Expression Name) → Except StoreFault (Option Formula)
  | none => .ok none
  | some e => do return some (← s.formula e)

/-- The origin of a query that may have none. -/
def origin? (ts : Tables) : Option Source → Except StoreFault (Option Origin)
  | none => .ok none
  | some source => (origin ts source.table).map some

/-- What can be named in a query, given its origin. -/
def querySurroundings (q : Query) (o : Option Origin) : Surroundings :=
  match q.source, o with
  | some source, some o => surroundingsOf source o.table
  | _, _ => {}

/-- The plan of a query. -/
def queryPlan (ts : Tables) (q : Query) : Except StoreFault QueryPlan := do
  let o ← origin? ts q.source
  let s := querySurroundings q o
  let t := o.map (·.table)
  let summing := { s with allowsSummaries := true }
  let columns := (← q.columns.mapM (answerColumns summing t)).flatten
  if widthLimit < columns.length || widthLimit < q.order.length then .error .tooLarge
  else
    return {
      origin := o
      columns := columns
      condition := ← s.formula? q.condition
      isDistinct := q.isDistinct
      order := ← q.order.mapM (orderPlan summing columns)
      limit := ← ({} : Surroundings).formula? q.limit
      offset := ← ({} : Surroundings).formula? q.offset }

/-- What a name in a change is assigned to. The column of the ids, and the names of the ids where no
column has them, stand for the ids; computed columns cannot be assigned to. -/
def targetOf (t : Table) (name : String) : Except StoreFault Target :=
  match t.position? name with
  | some i =>
    if (t.columns[i]?.bind (·.computed)).isSome then .error (.notChangeable name)
    else .ok (if t.idColumn = some i then .rowId else .column i)
  | none =>
    if t.hasIds && isIdName name then .ok .rowId else .error (.noSuchColumn name)

/-- The targets of an insertion in which no columns are named: all that are not computed. -/
def allTargets (t : Table) : List Target :=
  t.columns.zipIdx.filterMap fun (c, i) =>
    if c.computed.isSome then none else some (if t.idColumn = some i then .rowId else .column i)

/-- The plan of an insertion. Every row has to have a value for each of the columns, and several
rows are an answer that is inserted. -/
def insertPlan (ts : Tables) (resolution : Option Resolution) (source : Source)
    (columns : Option (List String)) (rows : Option (List (List (Expression Name)))) :
    Except StoreFault Plan := do
  let t ← changeable ts source.table
  let targets ← match columns, rows with
    | some names, _ => names.mapM (targetOf t)
    | none, some _ => .ok (allTargets t)
    | none, none => .ok []
  let formulas ← match rows with
    | none => .ok [[]]
    | some rows => rows.mapM fun row => row.mapM ({} : Surroundings).formula
  canInsert ts t resolution (formulas.length == 1) (targets.contains .rowId)
  if formulas.length != 1 && widthLimit < targets.length then throw .tooLarge
  if rows.isSome && formulas.any fun row => row.length != targets.length then
    .error .unreadableStatement
  else return .insert t.name resolution (if rows.isSome then targets else []) formulas

/-- The positions of the columns that are assigned to. -/
def assignedPositions (t : Table) (targets : List Target) : List Nat :=
  targets.filterMap fun
    | .rowId => t.idColumn
    | .column i => some i

/-- The plan of an update. Of several assignments to one column the last counts. -/
def updatePlan (ts : Tables) (resolution : Option Resolution) (source : Source)
    (assignments : List (String × Expression Name)) (condition : Option (Expression Name)) :
    Except StoreFault Plan := do
  let t ← changeable ts source.table
  if widthLimit < assignments.length then .error .tooLarge
  else
    let s := surroundingsOf source t
    let assignments ← assignments.mapM fun (name, e) => do
      return (← targetOf t name, ← s.formula e)
    let targets := assignments.map (·.1)
    canAlter ts (t.updating resolution (assignedPositions t targets) (targets.contains .rowId))
    let counting := assignments.reverse.eraseDupsBy fun a b => a.1 == b.1
    return .update t.name resolution counting (← s.formula? condition)

/-- The plan of a deletion. -/
def deletePlan (ts : Tables) (source : Source) (condition : Option (Expression Name)) :
    Except StoreFault Plan := do
  let t ← changeable ts source.table
  canAlter ts [.removal t.name]
  return .delete t.name (← (surroundingsOf source t).formula? condition)

/-- The plan of an instruction. -/
def plan (ts : Tables) : Instruction → Except StoreFault Plan
  | .select q => do return .query (← queryPlan ts q)
  | .values rows => do
    let formulas ← rows.mapM fun row => row.mapM ({} : Surroundings).formula
    let widths := formulas.map (·.length)
    if widths.any fun n => some n != widths.head? || widthLimit < n then .error .unreadableStatement
    else return .values formulas
  | .insert resolution source columns rows => insertPlan ts resolution source columns rows
  | .update resolution source assignments condition =>
    updatePlan ts resolution source assignments condition
  | .delete source condition => deletePlan ts source condition

end StoreBridge.Store
