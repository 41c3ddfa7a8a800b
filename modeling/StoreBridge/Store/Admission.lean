import StoreBridge.Store.Table

/-! The rules that a row has to keep: what must not be null, checks, and keys. A rule that is broken
is resolved: the change is refused, the row is passed over, or it takes the place of others. The
statement may say how, and else the rule itself does. -/
namespace StoreBridge.Store
open Sql Text

/-- Why a change stops, and whether what has been changed before stays so. -/
structure Halt where
  fault : StoreFault
  keepsChanges : Bool := false
deriving DecidableEq

/-- A fault after which nothing of a statement stays. -/
def halting {α : Type} : Except StoreFault α → Except Halt α
  | .ok a => .ok a
  | .error fault => .error ⟨fault, false⟩

/-- What becomes of a row. -/
inductive Admission where
  /-- The row is admitted, and takes the place of some others. -/
  | admitted (row : Row) (displaced : List Row)
  | passedOver
deriving DecidableEq

/-- What becomes of a row that breaks a rule which is not resolved by replacing. -/
def refused (fault : StoreFault) : Resolution → Except Halt Admission
  | .ignore => .ok .passedOver
  | .fail => .error ⟨fault, true⟩
  | _ => .error ⟨fault, false⟩

/-- The value of a default. -/
def DefaultValue.value (d : DefaultValue) : Except StoreFault Datum :=
  match d.formula with
  | some f => f.valueIn {}
  | none => .error .badArgument

namespace Table

/-- The value that a column has without being given one. -/
def defaultOf (c : Column) : Except StoreFault Datum :=
  match c.default with
  | some d => do return c.affinity.stored (← d.value)
  | none => .ok .null

/-- A value fits a strict type. -/
def fitsType (type : String) : Datum → Bool
  | .null => true
  | .integer _ => ["INT", "INTEGER", "ANY"].contains type
  | .real _ => ["REAL", "ANY"].contains type
  | .text _ => ["TEXT", "ANY"].contains type
  | .blob _ => ["BLOB", "ANY"].contains type

/-- A value as it is stored in a column. -/
def storedIn (t : Table) (c : Column) (d : Datum) : Datum :=
  if t.isStrict && c.type == "ANY" then d else c.affinity.stored d

/-- The row with its computed columns evaluated once. -/
def computedOnce (t : Table) (row : Row) : Except StoreFault Row := do
  let values ← t.columns.zipIdx.mapM fun (c, i) =>
    match c.computed with
    | none => .ok (t.valueAt row i)
    | some f => do return t.storedIn c (← f.valueIn (t.scope {} row))
  return { row with values := values }

/-- The row with its computed columns. As one of them may need others, they are evaluated as often
as there are columns. -/
def computed (t : Table) (row : Row) : Except StoreFault Row :=
  if t.columns.all (·.computed.isNone) then .ok row
  else t.columns.foldlM (fun row _ => t.computedOnce row) row

/-- A row that is null in a column that must not be: it gets the default of the column, if that is
asked for and is not null, or else something becomes of it. -/
def withoutNull (c : Column) (i : Nat) (r : Resolution) (row : Row) :
    Except Halt (Row ⊕ Admission) := do
  let default ← if r == .replace then halting (defaultOf c) else .ok .null
  if default == .null then return .inr (← refused (.notNull c.name) r)
  else return .inl { row with values := row.values.set i default }

/-- The row without nulls in some columns, where there must be none, or what becomes of it. -/
def checkNullsIn (t : Table) (override : Option Resolution) (isConcerned : Column → Bool)
    (row : Row) : Except Halt (Row ⊕ Admission) :=
  t.columns.zipIdx.foldlM (fun state (c, i) =>
    match state, c.notNull.filter fun _ => isConcerned c with
    | .inl row, some own =>
      if t.valueAt row i == .null then withoutNull c i (override.getD own) row else .ok (.inl row)
    | state, _ => .ok state) (.inl row)

/-- The row without nulls where there must be none, or what becomes of it. Columns are computed
again when the others have been looked at. -/
def checkNulls (t : Table) (override : Option Resolution) (row : Row) :
    Except Halt (Row ⊕ Admission) := do
  match ← t.checkNullsIn override (·.computed.isNone) row with
  | .inr a => return .inr a
  | .inl row => t.checkNullsIn override (·.computed.isSome) (← halting (t.computed row))

/-- A check does not hold: it is neither true nor unknown. -/
def breaksCheck (t : Table) (row : Row) : Except StoreFault Bool :=
  t.checks.anyM fun f => do return truthOf? (← f.valueIn (t.scope {} row)) == some false

/-- The rules about ids and keys that a row breaks, each with its resolution and the row that is in
the way. -/
def conflicts (t : Table) (override : Option Resolution) (others : List Row) (row : Row) :
    List (Resolution × Row) :=
  let resolved (own : Option Resolution) : Resolution := override.getD (own.getD .abort)
  let byId := if t.hasIds then others.filter (·.id == row.id) else []
  byId.map (fun r => (resolved t.idResolution, r)) ++ t.keys.flatMap fun key =>
    (others.filter fun r => agree key (t.valueAt row) (t.valueAt r)).map fun r =>
      (resolved key.resolution, r)

/-- What becomes of a row beside others. -/
def outcome (t : Table) (override : Option Resolution) (others : List Row) (row : Row) :
    Except Halt Admission := do
  let isFitting := (t.columns.zipIdx.all fun (c, i) => fitsType c.type (t.valueAt row i))
  if t.isStrict && !isFitting then .error ⟨.badArgument, false⟩
  else match ← t.checkNulls override row with
  | .inr a => return a
  | .inl row =>
    if ← halting (t.breaksCheck row) then
      refused (.checkFailed t.name) (override.getD .abort)
    else
      let found := t.conflicts override others row
      match found.find? fun (r, _) => r != .replace with
      | some (r, _) => refused .duplicateKey r
      | none => return .admitted row (found.map (·.2)).eraseDups

end Table
end StoreBridge.Store
