import StoreBridge.Facets
import StoreBridge.Text.Digit
import StoreBridge.Text.Letter

/-! Store types: a name of the store's own, and facets. The names that the provider knows are the
store kinds. -/
namespace StoreBridge
open Text

/-- The store types that the provider knows by name. -/
inductive StoreKind where
  | tinyInt | smallInt | int | integer | bit | uniqueIdentifier | float | real | decimal
  | extDecimal | dateTime | smallDateTime | varChar | char | nVarChar | nChar | xml | blob
deriving DecidableEq

namespace StoreKind

/-- Every store kind once, in the order of the catalog. -/
def all : List StoreKind :=
  [tinyInt, smallInt, int, integer, bit, uniqueIdentifier, float, real, decimal, extDecimal,
    dateTime, smallDateTime, varChar, char, nVarChar, nChar, xml, blob]

/-- The spelling of a store kind. -/
def name : StoreKind → String
  | tinyInt => "tinyint"
  | smallInt => "smallint"
  | int => "int"
  | integer => "integer"
  | bit => "bit"
  | uniqueIdentifier => "uniqueidentifier"
  | float => "float"
  | real => "real"
  | decimal => "decimal"
  | extDecimal => "extDecimal"
  | dateTime => "datetime"
  | smallDateTime => "smalldatetime"
  | varChar => "varchar"
  | char => "char"
  | nVarChar => "nvarchar"
  | nChar => "nchar"
  | xml => "xml"
  | blob => "blob"

/-- The store kind that a name spells, in any case. -/
def find? (s : String) : Option StoreKind :=
  all.find? fun k => sameName k.name s

theorem mem_all (k : StoreKind) : k ∈ all := by cases k <;> decide

end StoreKind

/-- A store type as it is used. -/
structure StoreType where
  name : String
  facets : Facets := {}
deriving DecidableEq

/-- The text of a store type: its name, and its length if that is bounded, or else its precision and
scale if both are. -/
def StoreType.text (t : StoreType) : String :=
  t.name ++
    match t.facets.maxLength, t.facets.precision, t.facets.scale with
    | some (.bounded n), _, _ => "(" ++ naturalText n.toNat ++ ")"
    | some .unbounded, _, _ => ""
    | none, some (.bounded p), some (.bounded s) =>
      "(" ++ naturalText p.toNat ++ "," ++ naturalText s.toNat ++ ")"
    | none, _, _ => ""

end StoreBridge
