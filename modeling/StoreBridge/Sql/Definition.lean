import StoreBridge.Sql.Expression

/-! Definitions of tables: columns with their types and constraints, constraints of the whole table,
and options. Types and defaults are kept as they are written, too, because they are reported so. -/
namespace StoreBridge.Sql

/-- What happens to a change that breaks a constraint. -/
inductive Resolution where
  | rollback | abort | fail | ignore | replace
deriving DecidableEq

/-- What happens to rows that refer to a row that goes away. -/
inductive ReferenceAction where
  | none | restrict | setNull | setDefault | cascade
deriving DecidableEq

/-- A reference to a row of another table. Without columns it is to the primary key. -/
structure ReferenceTarget where
  table : String
  columns : List String
  onDelete : ReferenceAction := .none
  onUpdate : ReferenceAction := .none
deriving DecidableEq

/-- A column in a key, with the direction of its order. -/
structure KeyPart where
  key : Expression Name
  isDescending : Bool

/-- The constraints of a column. -/
inductive ColumnConstraint where
  | primaryKey (isDescending : Bool) (resolution : Option Resolution) (isCounted : Bool)
  | notNull (resolution : Option Resolution)
  | unique (resolution : Option Resolution)
  | check (e : Expression Name)
  | default (e : Expression Name) (source : String)
  | collate (collation : String)
  | references (target : ReferenceTarget)
  | deferred (isDeferred : Bool)
  | generated (e : Expression Name) (storage : Option String)
  /-- A constraint that says nothing. -/
  | idle

/-- A column in a definition. -/
structure ColumnDefinition where
  name : String
  type : String
  constraints : List ColumnConstraint

/-- The constraints of a table. -/
inductive TableConstraint where
  | primaryKey (parts : List KeyPart) (resolution : Option Resolution) (isCounted : Bool)
  | unique (parts : List KeyPart) (resolution : Option Resolution)
  | check (e : Expression Name)
  | foreignKey (columns : List String) (target : ReferenceTarget) (isDeferred : Bool)
  /-- A constraint that says nothing. -/
  | idle

/-- A definition of a table. -/
structure Definition where
  name : String
  columns : List ColumnDefinition
  constraints : List TableConstraint
  withoutRowId : Bool
  isStrict : Bool
  /-- The text that is kept of the definition. -/
  source : String

end StoreBridge.Sql
