import StoreBridge.Sql.Definition
import StoreBridge.Store.Evaluation

/-! Tables: columns with the rules for their values, keys, and rows. Every row has an id, and the
rows stand in the order of their ids. Where the only column of the primary key is declared as
`INTEGER`, its values are the ids. -/
namespace StoreBridge.Store
open Sql Text

/-- The value of a column that is given none: what is to be evaluated, if it can be, and its
text. -/
structure DefaultValue where
  formula : Option Formula
  source : String

/-- A column of a table. -/
structure Column where
  name : String
  /-- The declared type as it is reported. -/
  type : String := ""
  affinity : Affinity := .any
  collation : Collation := .binary
  /-- What happens to a change that leaves the column null, if it must not be. -/
  notNull : Option Resolution := none
  /-- The place of the column in the primary key, counted from one; zero outside the key. -/
  keyPlace : Nat := 0
  default : Option DefaultValue := none
  /-- The expression that computes the value, if the column is computed. -/
  computed : Option Formula := none
  /-- A computed value is kept in the rows. -/
  isStored : Bool := false
  /-- The column is not among those that are meant by all columns. -/
  isHidden : Bool := false
  /-- The estimated width of the values, where a number has one. -/
  width : Nat := 1

/-- A column in a key. -/
structure KeyColumn where
  position : Nat
  collation : Collation
  isDescending : Bool

/-- A key: no two rows have the same values in its columns, unless one of the values is null. -/
structure Key where
  name : String
  columns : List KeyColumn
  resolution : Option Resolution
  isPrimary : Bool
  /-- The page on which the key begins. -/
  page : Nat

/-- A reference to rows of another table: the columns with which they are referred to. -/
structure ForeignKey where
  positions : List Nat
  target : ReferenceTarget
  isDeferred : Bool

/-- A row. -/
structure Row where
  id : Int64
  values : List Datum
deriving DecidableEq

/-- A table. -/
structure Table where
  name : String
  columns : List Column
  /-- The position of the column whose values are the ids. -/
  idColumn : Option Nat := none
  /-- What happens to a change that gives two rows the same id. -/
  idResolution : Option Resolution := none
  /-- No id is ever used again. -/
  isCounted : Bool := false
  /-- The rows have ids that can be named. -/
  hasIds : Bool := true
  isStrict : Bool := false
  /-- The keys in the order in which they are checked. -/
  keys : List Key := []
  checks : List Formula := []
  references : List ForeignKey := []
  /-- The definition that is kept of the table. -/
  source : String := ""
  /-- The page on which the table begins. -/
  page : Nat := 0
  rows : List Row := []

namespace Table

/-- The position of the column with a name, in any case. -/
def position? (t : Table) (name : String) : Option Nat :=
  t.columns.findIdx? fun c => sameName c.name name

/-- What the columns of a table are referred to by. The ids have a column or names of their own. -/
def references? (t : Table) : List (String × Reference) :=
  t.columns.zipIdx.map fun (c, i) =>
    (c.name, if t.idColumn = some i then .rowId else .column i c.affinity c.collation)

/-- The value at a position of a row. -/
def valueAt (t : Table) (row : Row) (i : Nat) : Datum :=
  if t.idColumn = some i then .integer row.id else row.values[i]?.getD .null

/-- The values of a row, in the order of the columns. -/
def valuesOf (t : Table) (row : Row) : List Datum :=
  (List.range t.columns.length).map (t.valueAt row)

/-- Two lists of values agree in the columns of a key, none of which is null. -/
def agree (key : Key) (a b : Nat → Datum) : Bool :=
  key.columns.all fun c =>
    a c.position != .null && isSame c.collation (a c.position) (b c.position)

/-- The order of two lists of values in the columns of a key. -/
def keyOrder (key : Key) (a b : Nat → Datum) : Ordering :=
  key.columns.foldl (fun o c =>
    let own := order c.collation (a c.position) (b c.position)
    o.then (if c.isDescending then own.swap else own)) .eq

/-- The primary key, unless it holds the ids. -/
def primaryKey? (t : Table) : Option Key :=
  t.keys.find? (·.isPrimary)

/-- A row stands in front of another one. -/
def precedes (t : Table) (a b : Row) : Bool :=
  if t.hasIds then decide (a.id.toInt < b.id.toInt)
  else t.primaryKey?.any fun key => keyOrder key (t.valueAt a) (t.valueAt b) == .lt

/-- The table with one more row. -/
def withRow (t : Table) (row : Row) : Table :=
  { t with rows := t.rows.takeWhile (t.precedes · row) ++
    row :: t.rows.dropWhile (t.precedes · row) }

/-- The table without the row that has an id. -/
def withoutRow (t : Table) (id : Int64) : Table :=
  { t with rows := t.rows.filter (·.id != id) }

/-- The row with an id. -/
def row? (t : Table) (id : Int64) : Option Row :=
  t.rows.find? (·.id == id)

/-- What the expressions about a row are evaluated in. -/
def scope (t : Table) (outer : Scope) (row : Row) : Scope :=
  { outer with id := .integer row.id, values := t.valuesOf row }

end Table
end StoreBridge.Store
