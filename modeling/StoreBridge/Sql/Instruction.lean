import StoreBridge.Sql.Definition
import StoreBridge.Sql.Expression.Reader

/-! Instructions to the store: queries and changes with expressions of any kind. The statements of
the provider are among them. -/
namespace StoreBridge.Sql

/-- What a query answers in a column, or in several. -/
inductive ResultColumn where
  | all
  | allOf (table : String)
  /-- An expression with its title, and with the text that it is written in. -/
  | item (e : Expression Name) (title : Option String) (source : String)

/-- A part of an order. -/
structure OrderPart where
  key : Expression Name
  isDescending : Bool
  /-- Where nulls stand, if it is said. -/
  nullsFirst : Option Bool

/-- A table, by its name and by another that it goes by. -/
structure Source where
  table : String
  title : Option String

/-- A query. -/
structure Query where
  isDistinct : Bool := false
  columns : List ResultColumn
  source : Option Source := none
  condition : Option (Expression Name) := none
  order : List OrderPart := []
  limit : Option (Expression Name) := none
  offset : Option (Expression Name) := none

/-- An instruction. -/
inductive Instruction where
  | select (q : Query)
  /-- Rows that are given by their values. -/
  | values (rows : List (List (Expression Name)))
  /-- An insertion. Without columns all of them are meant; without rows there is one of defaults. -/
  | insert (resolution : Option Resolution) (source : Source) (columns : Option (List String))
      (rows : Option (List (List (Expression Name))))
  | update (resolution : Option Resolution) (source : Source)
      (assignments : List (String × Expression Name)) (condition : Option (Expression Name))
  | delete (source : Source) (condition : Option (Expression Name))

/-- A literal as an expression. A real number is read from its text, and a number below zero is the
negation of another. -/
def literalExpression : Datum → Expression Name
  | .integer n =>
    if n.toInt < 0 then .unary .minus (.natural n.toInt.natAbs) else .natural n.toInt.toNat
  | .real x =>
    let e := .datum (.real (Token.realOf x.abs.literalText.toList))
    if x.isNegative then .unary .minus e else e
  | d => .datum d

/-- A term as an expression. -/
def Term.expression : Term → Expression Name
  | placeholder p => .parameter (.named p)
  | literal d => literalExpression d

/-- A name in double quotes as an expression. -/
def nameExpression (name : String) : Expression Name :=
  .name ⟨none, name, .double⟩

/-- A condition as an expression. -/
def Condition.expression : Condition → Expression Name
  | isNull c => .unary .isNull (nameExpression c)
  | equals c t => .binary .equal (nameExpression c) t.expression

/-- Conditions as one expression, if there are any. -/
def conjunction? : List Condition → Option (Expression Name)
  | [] => none
  | c :: rest =>
    some (rest.foldl (fun e c => .binary .and e c.expression) c.expression)

/-- The columns of a selection. -/
def Selection.resultColumns : Selection → List ResultColumn
  | all => [.all]
  | columns names => names.map fun name =>
    .item (nameExpression name) none (String.ofList (nameChars name))

/-- A statement of the provider as an instruction. -/
def Statement.instruction : Statement → Instruction
  | select s table conditions =>
    .select {
      columns := s.resultColumns
      source := some ⟨table, none⟩
      condition := conjunction? conditions }
  | insert table [] => .insert none ⟨table, none⟩ none none
  | insert table assignments =>
    .insert none ⟨table, none⟩ (some (assignments.map (·.1)))
      (some [assignments.map (·.2.expression)])
  | update table assignments conditions =>
    .update none ⟨table, none⟩ (assignments.map fun (c, t) => (c, t.expression))
      (conjunction? conditions)
  | delete table conditions => .delete ⟨table, none⟩ (conjunction? conditions)

end StoreBridge.Sql
