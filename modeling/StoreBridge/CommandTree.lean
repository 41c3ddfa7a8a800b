import StoreBridge.Parameter

/-! Command trees: a command in the terms of the conceptual model. A tree declares parameters and
has one of five bodies. -/
namespace StoreBridge

/-- A parameter that a tree declares. -/
structure DeclaredParameter where
  name : String
  type : ConceptualType
deriving DecidableEq

/-- A parameter in the signature of a routine. -/
structure FormalParameter where
  name : String
  type : ConceptualType
  direction : Direction
deriving DecidableEq

/-- A routine of the store, which may come with a text of its own. -/
structure Routine where
  name : String
  schema : Option String := none
  commandText : Option String := none
  parameters : List FormalParameter := []
deriving DecidableEq

/-- The first parameter of the signature with this name. -/
def Routine.parameter? (r : Routine) (name : String) : Option FormalParameter :=
  r.parameters.find? fun p => p.name == name

/-- What a column is set to, or compared with. -/
inductive Operand where
  | parameter (name : String)
  | constant (value : Value) (type : ConceptualType)
  | null
deriving DecidableEq

/-- A column and an operand: an assignment, or a term of a filter. -/
structure Clause where
  column : String
  operand : Operand
deriving DecidableEq

/-- What a command does. -/
inductive CommandBody where
  | query (table : String) (columns : List String) (filter : List Clause)
  | insert (table : String) (values : List Clause)
  | update (table : String) (values : List Clause) (filter : List Clause)
  | delete (table : String) (filter : List Clause)
  | function (routine : Routine)
deriving DecidableEq

namespace CommandBody

/-- The word for what the command does. -/
def word : CommandBody → String
  | query .. => "query"
  | insert .. => "insert"
  | update .. => "update"
  | delete .. => "delete"
  | function _ => "function"

/-- Commands that change tables may have parameters of their own making. -/
def permitsGenerated : CommandBody → Bool
  | insert .. | update .. | delete .. => true
  | query .. | function _ => false

/-- The routine that is called. -/
def routine? : CommandBody → Option Routine
  | function r => some r
  | _ => none

end CommandBody

/-- A command tree. -/
structure CommandTree where
  parameters : List DeclaredParameter := []
  body : CommandBody
deriving DecidableEq

/-- The first declared parameter with this name. -/
def CommandTree.parameter? (tree : CommandTree) (name : String) : Option DeclaredParameter :=
  tree.parameters.find? fun p => p.name == name

end StoreBridge
