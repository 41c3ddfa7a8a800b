import StoreBridge.Parameter
import StoreBridge.Value.Record

/-! Parameters as records. A parameter without a size has no such member. -/
namespace StoreBridge.Parameter
open Document

/-- A parameter as a record. -/
def toDocument (p : Parameter) : Document :=
  ofMembers
    [("name", some (.text p.name)),
      ("direction", some (.text p.direction.word)),
      ("db_type", some (.text p.dbType.name)),
      ("size", p.size.map fun n => .integer n.toNat),
      ("is_nullable", some (.boolean p.isNullable)),
      ("value", some p.value.toDocument)]

/-- The parameter that a record is. -/
def ofDocument? (tolerance : Tolerance) (d : Document) : Option Parameter := do
  let names := ["name", "direction", "db_type", "size", "is_nullable", "value"]
  let [name, direction, dbType, size, isNullable, value] ← d.fields? names 5 false | none
  return {
    name := ← required? text? name
    direction := ← required? (plainVariant? tolerance Direction.ofWord?) direction
    dbType := ← required? (plainVariant? tolerance DbType.ofName?) dbType
    size := ← optional? uint32? size
    isNullable := ← required? boolean? isNullable
    value := ← defaulted? .null (Value.ofDocument? tolerance) value }

end StoreBridge.Parameter
