import StoreBridge.Sql.Datum
import StoreBridge.Text.Split

/-! Statements of the store's language, as far as the provider speaks it, and their text. Names
stand in double quotes, so that no name can end before its closing quote, and a value is either a
literal or a placeholder whose value is sent beside the text. -/
namespace StoreBridge
open Text

namespace Sql

/-- The characters that placeholders begin with. -/
inductive Sigil where
  | atSign | colon | dollar
deriving DecidableEq

/-- Every sigil once, in the order in which names are looked for. -/
def Sigil.all : List Sigil :=
  [.atSign, .colon, .dollar]

/-- The character of a sigil. -/
def Sigil.char : Sigil → Char
  | atSign => '@'
  | colon => ':'
  | dollar => '$'

/-- A placeholder for a value: sigil and name together tell placeholders apart. -/
structure Placeholder where
  sigil : Sigil
  name : String
deriving DecidableEq

/-- The characters of a placeholder. -/
def Placeholder.chars (p : Placeholder) : List Char :=
  p.sigil.char :: p.name.toList

/-- What is assigned to a column, or compared with one. -/
inductive Term where
  | placeholder (p : Placeholder)
  | literal (d : Datum)
deriving DecidableEq

/-- The characters of a term. -/
def Term.chars : Term → List Char
  | placeholder p => p.chars
  | literal d => d.literalChars

/-- What is asked of the value in a column. -/
inductive Condition where
  | isNull (column : String)
  | equals (column : String) (term : Term)
deriving DecidableEq

/-- The column that a condition is about. -/
def Condition.column : Condition → String
  | isNull c => c
  | equals c _ => c

/-- The columns that a query asks for. -/
inductive Selection where
  | all
  | columns (names : List String)
deriving DecidableEq

/-- A statement. -/
inductive Statement where
  | select (selection : Selection) (table : String) (conditions : List Condition)
  | insert (table : String) (assignments : List (String × Term))
  | update (table : String) (assignments : List (String × Term)) (conditions : List Condition)
  | delete (table : String) (conditions : List Condition)
deriving DecidableEq

/-- Texts one after the other, with a separator between each two. -/
def separated (sep : List Char) : List (List Char) → List Char
  | [] => []
  | [s] => s
  | s :: t :: rest => s ++ sep ++ separated sep (t :: rest)

/-- A name in quotes. -/
def nameChars (name : String) : List Char :=
  enquote '"' name.toList

/-- A list of texts. -/
def listed (texts : List (List Char)) : List Char :=
  separated [',', ' '] texts

/-- The characters of a condition. -/
def Condition.chars : Condition → List Char
  | isNull c => nameChars c ++ " IS NULL".toList
  | equals c t => nameChars c ++ " = ".toList ++ t.chars

/-- The clause that holds the conditions; without conditions there is none. -/
def whereChars (conditions : List Condition) : List Char :=
  if conditions.isEmpty then []
  else " WHERE ".toList ++ separated " AND ".toList (conditions.map (·.chars))

/-- The columns asked for. -/
def Selection.chars : Selection → List Char
  | all => ['*']
  | columns names => listed (names.map nameChars)

/-- An assignment in an update. -/
def assignmentChars (a : String × Term) : List Char :=
  nameChars a.1 ++ " = ".toList ++ a.2.chars

/-- The values of an insertion, in the order of its columns. -/
def valuesChars (assignments : List (String × Term)) : List Char :=
  if assignments.isEmpty then " DEFAULT VALUES".toList
  else " (".toList ++ listed (assignments.map (nameChars ·.1)) ++ ") VALUES (".toList ++
    listed (assignments.map (·.2.chars)) ++ [')']

/-- The characters of a statement. -/
def Statement.chars : Statement → List Char
  | select s table conditions =>
    "SELECT ".toList ++ s.chars ++ " FROM ".toList ++ nameChars table ++ whereChars conditions
  | insert table assignments =>
    "INSERT INTO ".toList ++ nameChars table ++ valuesChars assignments
  | update table assignments conditions =>
    "UPDATE ".toList ++ nameChars table ++ " SET ".toList ++
      listed (assignments.map assignmentChars) ++ whereChars conditions
  | delete table conditions => "DELETE FROM ".toList ++ nameChars table ++ whereChars conditions

/-- The text of a statement. -/
def Statement.text (s : Statement) : String :=
  String.ofList s.chars

/-- The terms of assignments and conditions in the order in which they are written. -/
def termsOf (assignments : List (String × Term)) (conditions : List Condition) : List Term :=
  assignments.map (·.2) ++ conditions.filterMap fun
    | .isNull _ => none
    | .equals _ t => some t

/-- The terms of a statement. -/
def Statement.terms : Statement → List Term
  | select _ _ conditions => termsOf [] conditions
  | insert _ assignments => termsOf assignments []
  | update _ assignments conditions => termsOf assignments conditions
  | delete _ conditions => termsOf [] conditions

/-- The placeholders of a statement, each once, in the order of their first occurrence. -/
def Statement.placeholders (s : Statement) : List Placeholder :=
  (s.terms.filterMap fun
    | .placeholder p => some p
    | .literal _ => none).eraseDups

/-- Refuses the empty name, which no table and no column has. -/
def checkIdentifier (name : String) : Except Failure String :=
  if name.isEmpty then .error .emptyIdentifier else .ok name

/-- A name in quotes, if it is one. -/
def quoteIdentifier (name : String) : Except Failure String := do
  return String.ofList (nameChars (← checkIdentifier name))

end Sql
end StoreBridge
