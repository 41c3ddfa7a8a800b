import StoreBridge.Store.Lookup
import StoreBridge.Store.Table

/-! What computed columns are computed from. A row can only be made if they can be computed one
after the other, and it can only be read if those can that are not kept in the rows. -/
namespace StoreBridge.Store
open Sql

/-- A column that is computed: its position, and the positions of the columns that it needs. -/
structure Dependency where
  position : Nat
  needed : List Nat
deriving DecidableEq

/-- Columns can be computed one after the other, in at most so many rounds. In each round those
remain that need others of them. -/
def areComputable : (rounds : Nat) → List Dependency → Bool
  | 0, pending => pending.isEmpty
  | rounds + 1, pending => areComputable rounds (pending.filter fun d =>
    d.needed.any fun i => pending.any (·.position == i))

namespace Table

/-- The positions of the columns that an expression needs. -/
def positionsIn (t : Table) (e : Formula) : List Nat :=
  e.named.filterMap fun
    | .column i _ _ => some i
    | .rowId => t.idColumn
    | .word _ => none

/-- The columns that are computed. -/
def dependencies (t : Table) : List Dependency :=
  t.columns.zipIdx.filterMap fun (c, i) => c.computed.map fun e => ⟨i, t.positionsIn e⟩

/-- Rows can be made: every computed column can be computed. -/
def isWritable (t : Table) : Bool :=
  areComputable t.columns.length t.dependencies

/-- Rows can be read: every column that is computed when it is read can be computed. -/
def isReadable (t : Table) : Bool :=
  areComputable t.columns.length (t.dependencies.filter fun d =>
    t.columns[d.position]?.any fun c => !c.isStored)

/-- The positions of the columns that change with others. -/
def changedWith (t : Table) (positions : List Nat) : List Nat :=
  t.columns.foldl (fun changed _ =>
    changed ++ (t.dependencies.filter fun d =>
      d.needed.any changed.contains && !changed.contains d.position).map (·.position)) positions

end Table
end StoreBridge.Store
