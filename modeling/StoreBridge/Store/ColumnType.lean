import StoreBridge.ConceptualType.Record
import StoreBridge.Mapping
import StoreBridge.Store

/-! The columns of a table as the conceptual model sees them. A column whose declared type has no
conceptual counterpart is reported without one. -/
namespace StoreBridge
open Document Text

/-- A column with its conceptual type. -/
structure ColumnType where
  name : String
  declared : String
  notNull : Bool
  primaryKey : Bool
  type : Option ConceptualType
deriving DecidableEq

namespace ColumnType

/-- The conceptual view of a column. -/
def ofColumn (c : Store.Column) : ColumnType where
  name := c.name
  declared := c.type
  notNull := c.notNull.isSome
  primaryKey := c.keyPlace != 0
  type := (StoreType.conceptualOfDeclared c.type).toOption.map
    (·.withNullable c.notNull.isNone)

/-- A column as a record. -/
def toDocument (c : ColumnType) : Document :=
  .object
    [("name", .text c.name),
      ("declared_type", .text c.declared),
      ("not_null", .boolean c.notNull),
      ("primary_key", .boolean c.primaryKey),
      ("type", (c.type.map (·.toDocument)).getD .null)]

end ColumnType

namespace Store

/-- The table with a name, also if the store provides it by itself. -/
def describedTable? (store : Store) (name : String) : Option Table :=
  (Report.tableOf? store.tables name).or
    (((Report.find? name).map (·.table name)).or (providedTable? name))

/-- The columns of a table, which has to be there. Computed columns are left out. The name that is
looked for ends at the first null character. -/
def columnTypes (store : Store) (table : String) : Except Failure (List ColumnType) :=
  match store.describedTable? (String.ofList (table.toList.takeWhile (· != '\x00'))) with
  | some t =>
    .ok ((t.columns.filter fun c => c.computed.isNone && !c.isHidden).map .ofColumn)
  | none => .error (.noSuchTable table)

end Store

end StoreBridge
