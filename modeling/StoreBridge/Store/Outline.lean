import StoreBridge.Store

/-! Outlines of tables: the columns with their declared types, which of them must not be null, and
which make the primary key. An outline is written as a definition, from which the table is created.
A declared type stands in it as it is given. -/
namespace StoreBridge
open Sql

/-- The outline of a column. -/
structure ColumnOutline where
  name : String
  declared : String := ""
  notNull : Bool := false
  primaryKey : Bool := false
deriving DecidableEq

/-- The outline of a table. -/
structure TableOutline where
  name : String
  columns : List ColumnOutline
deriving DecidableEq

/-- The text of a column in a definition. -/
def ColumnOutline.chars (c : ColumnOutline) : List Char :=
  nameChars c.name ++ ' ' :: c.declared.toList ++ if c.notNull then " NOT NULL".toList else []

namespace TableOutline

/-- The text of the primary key in a definition; there is none without key columns. -/
def keyChars (t : TableOutline) : List (List Char) :=
  match t.columns.filter (·.primaryKey) with
  | [] => []
  | keys => ["PRIMARY KEY (".toList ++ listed (keys.map fun c => nameChars c.name) ++ [')']]

/-- The definition of a table. Neither the table nor a column may have an empty name. -/
def definition (t : TableOutline) : Except Failure String := do
  let _ ← (t.name :: t.columns.map (·.name)).mapM checkIdentifier
  return String.ofList ("CREATE TABLE ".toList ++ nameChars t.name ++ " (".toList ++
    listed (t.columns.map (·.chars) ++ t.keyChars) ++ [')'])

end TableOutline

/-- The store with tables that are created from outlines, one after the other. -/
def Store.ofOutlines (outlines : List TableOutline) : Except Failure Store :=
  outlines.foldlM (fun store t => do
    match store.withTable (← t.definition) with
    | .ok store => return store
    | .error fault => .error (.store fault)) {}

end StoreBridge
