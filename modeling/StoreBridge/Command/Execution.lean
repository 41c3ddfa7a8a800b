import StoreBridge.Command
import StoreBridge.Store

/-! Running compiled commands on a store. The statement is prepared first; then each parameter that
passes a value in is bound to the first placeholder of its name, by the order of the sigils, and
parameters that the statement does not mention are passed over; then the statement is run. -/
namespace StoreBridge.Command
open Sql Store

/-- The placeholder that a name is bound to, among those of a statement. -/
def slot? (placeholders : List Placeholder) (name : String) : Option Placeholder :=
  (Sigil.all.map fun sigil => Placeholder.mk sigil name).find? placeholders.contains

/-- The values of placeholders that parameters supply. Of two for one placeholder the later one
counts, and stands in front. -/
def bindings (form : DateTimeForm) (placeholders : List Placeholder) :
    List Parameter → Except Failure Binding
  | [] => .ok []
  | p :: rest =>
    if p.direction.acceptsInput then
      match slot? placeholders p.name with
      | none => bindings form placeholders rest
      | some slot => do
        let datum ← p.value.datum form
        return (← bindings form placeholders rest) ++ [(slot, datum)]
    else bindings form placeholders rest

/-- A failure of the store. -/
def fromStore {α : Type} : Except StoreFault α → Except Failure α
  | .ok a => .ok a
  | .error fault => .error (.store fault)

/-- The statement of a command, and the values of its placeholders. -/
def prepare (store : Store) (form : DateTimeForm) (c : Command) :
    Except Failure (Prepared × Binding) :=
  match c.type with
  | .storedProcedure => .error (.storedProcedure c.text)
  | .text => do
    let statement ← fromStore (store.prepare c.text)
    return (statement, ← bindings form statement.placeholders c.parameters)

/-- What a command answers, and the store after it. -/
def run (store : Store) (form : DateTimeForm) (c : Command) : Except Failure Answer × Store :=
  match c.prepare store form with
  | .error failure => (.error failure, store)
  | .ok (statement, binding) =>
    let (answer, store) := store.run binding statement
    (fromStore answer, store)

/-- The answer to a query: titles, and rows of cells. -/
structure Result where
  titles : List String
  rows : List (List String)
deriving DecidableEq

/-- What a command answers as text, and the store after it. -/
def query (store : Store) (form : DateTimeForm) (c : Command) : Except Failure Result × Store :=
  let (answer, store) := c.run store form
  (answer.map fun a => ⟨a.titles, a.rows.map (·.map (·.cell))⟩, store)

/-- The number of rows that the last change concerned, after a command that must not answer any
rows; and the store after it. -/
def execute (store : Store) (form : DateTimeForm) (c : Command) : Except Failure Nat × Store :=
  let (answer, store) := c.run store form
  (do if (← answer).rows.isEmpty then .ok store.changes else .error (.store .rowsReturned), store)

end StoreBridge.Command
