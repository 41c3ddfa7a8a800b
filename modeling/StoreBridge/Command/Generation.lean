import StoreBridge.Command
import StoreBridge.Sql.Statement

/-! The built-in generator of statements. A tree becomes a statement, and the statement a text. The
constants of a query are written in place; those of an insertion, an update or a deletion are sent
as parameters `p0`, `p1`, … of the command's own, of which the declared names are left out. A
routine is run by the text that comes with it, and called by its name if none does. -/
namespace StoreBridge
open Text Sql

namespace Generation

/-- The name of a parameter of the command's own. -/
def ownName (i : Nat) : String :=
  "p" ++ naturalText i

/-- The first index from `i` on whose name is not declared. Among more indices than there are
declared names one is free, so `tries` need be no more than their number. -/
def freeIndex (declared : List String) : (tries i : Nat) → Nat
  | 0, i => i
  | tries + 1, i =>
    if declared.contains (ownName i) then freeIndex declared tries (i + 1) else i

/-- What becomes of constants. -/
inductive ConstantStyle where
  /-- They are written in place. -/
  | inPlace (form : DateTimeForm)
  /-- They are sent as parameters. -/
  | sent
deriving DecidableEq

/-- The parameters made so far, and the index from which on the next name is looked for. -/
structure Supply where
  made : List Parameter := []
  next : Nat := 0
deriving DecidableEq

/-- The term for a constant. -/
def constantTerm (declared : List String) (style : ConstantStyle) (value : Value)
    (type : ConceptualType) (supply : Supply) : Except Failure (Term × Supply) :=
  match style with
  | .inPlace form => do
    let datum ← value.datum form
    let _ ← datum.literal
    return (.literal datum, supply)
  | .sent =>
    let i := freeIndex declared declared.length supply.next
    let parameter := Parameter.derived (ownName i) type .input value
    .ok (.placeholder ⟨.atSign, ownName i⟩, ⟨supply.made ++ [parameter], i + 1⟩)

/-- The term for a parameter, which has to be declared. -/
def parameterTerm (declared : List String) (name : String) : Except Failure Term := do
  Parameter.checkName name
  if declared.contains name then return .placeholder ⟨.atSign, name⟩
  else .error (.undeclaredParameter name)

/-- The term for an operand. -/
def term (declared : List String) (style : ConstantStyle) (operand : Operand) (supply : Supply) :
    Except Failure (Term × Supply) :=
  match operand with
  | .null => .ok (.literal .null, supply)
  | .parameter name => do return (← parameterTerm declared name, supply)
  | .constant value type => constantTerm declared style value type supply

/-- The assignments for clauses. -/
def assignments (declared : List String) (style : ConstantStyle) :
    List Clause → Supply → Except Failure (List (String × Term) × Supply)
  | [], supply => .ok ([], supply)
  | clause :: rest, supply => do
    let column ← checkIdentifier clause.column
    let (t, supply) ← term declared style clause.operand supply
    let (others, supply) ← assignments declared style rest supply
    return ((column, t) :: others, supply)

/-- The condition for a clause. An operand that is null asks whether the column is. -/
def condition (declared : List String) (style : ConstantStyle) (clause : Clause)
    (supply : Supply) : Except Failure (Condition × Supply) := do
  let column ← checkIdentifier clause.column
  match clause.operand with
  | .null => return (.isNull column, supply)
  | operand =>
    let (t, supply) ← term declared style operand supply
    return (.equals column t, supply)

/-- The conditions for clauses. -/
def conditions (declared : List String) (style : ConstantStyle) :
    List Clause → Supply → Except Failure (List Condition × Supply)
  | [], supply => .ok ([], supply)
  | clause :: rest, supply => do
    let (c, supply) ← condition declared style clause supply
    let (others, supply) ← conditions declared style rest supply
    return (c :: others, supply)

/-- The columns that a query asks for: all of them if it names none. -/
def selection (columns : List String) : Except Failure Selection :=
  if columns.isEmpty then .ok .all else return .columns (← columns.mapM checkIdentifier)

/-- A statement, and the parameters made for its constants. -/
structure Draft where
  statement : Statement
  made : List Parameter
deriving DecidableEq

/-- The command that a draft stands for. -/
def Draft.command (d : Draft) : Command :=
  ⟨d.statement.text, .text, d.made⟩

/-- The statement of a query. -/
def query (declared : List String) (form : DateTimeForm) (table : String) (columns : List String)
    (filter : List Clause) : Except Failure Draft := do
  let selected ← selection columns
  let table ← checkIdentifier table
  let (cs, supply) ← conditions declared (.inPlace form) filter {}
  return ⟨.select selected table cs, supply.made⟩

/-- The statement of an insertion. -/
def insertion (declared : List String) (table : String) (values : List Clause) :
    Except Failure Draft := do
  let table ← checkIdentifier table
  let (as, supply) ← assignments declared .sent values {}
  return ⟨.insert table as, supply.made⟩

/-- The statement of an update, which has to assign something. -/
def update (declared : List String) (table : String) (values filter : List Clause) :
    Except Failure Draft := do
  if values.isEmpty then throw (.emptyUpdate table)
  let table ← checkIdentifier table
  let (as, supply) ← assignments declared .sent values {}
  let (cs, supply) ← conditions declared .sent filter supply
  return ⟨.update table as cs, supply.made⟩

/-- The statement of a deletion. -/
def deletion (declared : List String) (table : String) (filter : List Clause) :
    Except Failure Draft := do
  let table ← checkIdentifier table
  let (cs, supply) ← conditions declared .sent filter {}
  return ⟨.delete table cs, supply.made⟩

/-- The name by which a routine is called. -/
def routineName (r : Routine) : Except Failure String := do
  let schema ← match r.schema with
    | none => pure ""
    | some schema => do pure ((← quoteIdentifier schema) ++ ".")
  return schema ++ (← quoteIdentifier r.name)

/-- The command that runs a routine. -/
def routineCommand (r : Routine) : Except Failure Command :=
  match r.commandText.filter fun text => !isAllBlank text with
  | some text => .ok ⟨text, .text, []⟩
  | none => return ⟨← routineName r, .storedProcedure, []⟩

end Generation

/-- The generator of the store's own language. -/
def generate : Generator := fun form tree =>
  let declared := tree.parameters.map (·.name)
  match tree.body with
  | .query table columns filter =>
    (Generation.query declared form table columns filter).map (·.command)
  | .insert table values => (Generation.insertion declared table values).map (·.command)
  | .update table values filter => (Generation.update declared table values filter).map (·.command)
  | .delete table filter => (Generation.deletion declared table filter).map (·.command)
  | .function r => Generation.routineCommand r

end StoreBridge
