import StoreBridge.CommandTree
import StoreBridge.ConceptualType.Record
import StoreBridge.Value.Record

/-! Command trees as records. The body names its kind in a member of its own, in front of the others
when it is a list; what stands in a body may be written with tolerance. -/
namespace StoreBridge
open Document

namespace DeclaredParameter

/-- A declared parameter as a record. -/
def toDocument (p : DeclaredParameter) : Document :=
  .object [("name", .text p.name), ("type", p.type.toDocument)]

/-- The declared parameter that a record is. -/
def ofDocument? (tolerance : Tolerance) (d : Document) : Option DeclaredParameter := do
  let [name, type] ← d.fields? ["name", "type"] 2 false | none
  return ⟨← required? text? name, ← required? (ConceptualType.ofDocument? tolerance) type⟩

end DeclaredParameter

namespace FormalParameter

/-- A parameter of a signature as a record. -/
def toDocument (p : FormalParameter) : Document :=
  .object [("name", .text p.name), ("type", p.type.toDocument),
    ("mode", .text p.direction.signatureWord)]

/-- The parameter of a signature that a record is. -/
def ofDocument? (tolerance : Tolerance) (d : Document) : Option FormalParameter := do
  let [name, type, mode] ← d.fields? ["name", "type", "mode"] 3 false | none
  return ⟨← required? text? name, ← required? (ConceptualType.ofDocument? tolerance) type,
    ← required? (plainVariant? tolerance Direction.ofSignatureWord?) mode⟩

end FormalParameter

namespace Routine

/-- A routine as a record. -/
def toDocument (r : Routine) : Document :=
  ofMembers
    [("name", some (.text r.name)),
      ("schema", r.schema.map .text),
      ("command_text", r.commandText.map .text),
      ("parameters", some (.list (r.parameters.map (·.toDocument))))]

/-- The routine that a record is. -/
def ofDocument? (tolerance : Tolerance) (d : Document) : Option Routine := do
  let names := ["name", "schema", "command_text", "parameters"]
  let [name, schema, commandText, parameters] ← d.fields? names 1 false | none
  return {
    name := ← required? text? name
    schema := ← optional? text? schema
    commandText := ← optional? text? commandText
    parameters := ← defaulted? [] (listOf? (FormalParameter.ofDocument? tolerance)) parameters }

end Routine

namespace Operand

/-- An operand as a variant. -/
def toDocument : Operand → Document
  | parameter name => .object [("parameter", .text name)]
  | constant value type =>
    .object [("constant", .object [("value", value.toDocument), ("type", type.toDocument)])]
  | null => .text "null"

/-- The null operand, by its name. -/
def nullOfName? (name : String) : Option Operand :=
  if name = "null" then some null else none

/-- The constant that a record is. -/
def constantOfDocument? (tolerance : Tolerance) (d : Document) : Option Operand := do
  let [value, type] ← d.fields? ["value", "type"] 2 false | none
  return constant (← required? (Value.ofDocument? tolerance) value)
    (← required? (ConceptualType.ofDocument? tolerance) type)

/-- The operand that a variant is. -/
def ofDocument? (tolerance : Tolerance) (d : Document) : Option Operand :=
  match plainVariant? tolerance nullOfName? d, d with
  | some v, _ => some v
  | none, .object [("parameter", data)] => data.text?.map parameter
  | none, .object [("constant", data)] => constantOfDocument? tolerance data
  | none, _ => none

end Operand

namespace Clause

/-- A clause as a record. -/
def toDocument (c : Clause) : Document :=
  .object [("column", .text c.column), ("value", c.operand.toDocument)]

/-- The clause that a record is. -/
def ofDocument? (tolerance : Tolerance) (d : Document) : Option Clause := do
  let [column, operand] ← d.fields? ["column", "value"] 2 false | none
  return ⟨← required? text? column, ← required? (Operand.ofDocument? tolerance) operand⟩

end Clause

namespace CommandBody

/-- Clauses as a list. -/
def clauses (cs : List Clause) : Document :=
  .list (cs.map (·.toDocument))

/-- The members of a body, but for its kind. -/
def members : CommandBody → List (String × Document)
  | query table columns filter =>
    [("table", .text table), ("columns", .list (columns.map .text)), ("filter", clauses filter)]
  | insert table values => [("table", .text table), ("values", clauses values)]
  | update table values filter =>
    [("table", .text table), ("values", clauses values), ("filter", clauses filter)]
  | delete table filter => [("table", .text table), ("filter", clauses filter)]
  | function r => [("routine", r.toDocument)]

/-- A body as a record. -/
def toDocument (b : CommandBody) : Document :=
  .object (("kind", .text b.word) :: b.members)

/-- The clauses that a list holds. -/
def clauses? (d : Document) : Option (List Clause) :=
  listOf? (Clause.ofDocument? .tolerant) d

/-- The body of a kind, named, with the other members of its record. -/
def ofMembers? (kind : String) (d : Document) : Option CommandBody :=
  match kind with
  | "query" => do
    let [table, columns, filter] ← d.fields? ["table", "columns", "filter"] 1 false | none
    return query (← required? text? table) (← defaulted? [] (listOf? text?) columns)
      (← defaulted? [] clauses? filter)
  | "insert" => do
    let [table, values] ← d.fields? ["table", "values"] 1 false | none
    return insert (← required? text? table) (← defaulted? [] clauses? values)
  | "update" => do
    let [table, values, filter] ← d.fields? ["table", "values", "filter"] 2 false | none
    return update (← required? text? table) (← required? clauses? values)
      (← defaulted? [] clauses? filter)
  | "delete" => do
    let [table, filter] ← d.fields? ["table", "filter"] 1 false | none
    return delete (← required? text? table) (← defaulted? [] clauses? filter)
  | "function" => do
    let [routine] ← d.fields? ["routine"] 1 false | none
    return function (← required? (Routine.ofDocument? .tolerant) routine)
  | _ => none

/-- The body that a record is. It does not matter how the objects in it are put together. -/
def ofDocument? (d : Document) : Option CommandBody :=
  match d.levelled with
  | .object members => do
    let kind ← required? text? (← onlyMember? members "kind")
    ofMembers? kind (.object (members.filter (·.1 != "kind")))
  | .list (.text kind :: items) => ofMembers? kind (.list items)
  | _ => none

end CommandBody

namespace CommandTree

/-- A command tree as a record. -/
def toDocument (tree : CommandTree) : Document :=
  .object [("parameters", .list (tree.parameters.map (·.toDocument))),
    ("body", tree.body.toDocument)]

/-- The command tree that a record is. -/
def ofDocument? (tolerance : Tolerance) (d : Document) : Option CommandTree := do
  let [parameters, body] ← d.fields? ["parameters", "body"] 2 false | none
  return ⟨← defaulted? [] (listOf? (DeclaredParameter.ofDocument? tolerance)) parameters,
    ← required? CommandBody.ofDocument? body⟩

end CommandTree
end StoreBridge
