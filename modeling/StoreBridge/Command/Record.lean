import StoreBridge.Command
import StoreBridge.Parameter.Record

/-! Compiled commands as records. -/
namespace StoreBridge.Command
open Document

/-- A compiled command as a record. -/
def toDocument (c : Command) : Document :=
  .object [("sql_text", .text c.text), ("command_type", .text c.type.word),
    ("parameters", .list (c.parameters.map (·.toDocument)))]

/-- The compiled command that a record is. -/
def ofDocument? (tolerance : Tolerance) (d : Document) : Option Command := do
  let names := ["sql_text", "command_type", "parameters"]
  let [text, type, parameters] ← d.fields? names 3 false | none
  return ⟨← required? text? text, ← required? (plainVariant? tolerance CommandType.ofWord?) type,
    ← required? (listOf? (Parameter.ofDocument? tolerance)) parameters⟩

end StoreBridge.Command
