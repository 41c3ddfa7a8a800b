import StoreBridge.DateTime.Text
import StoreBridge.Document.Record
import StoreBridge.Integer64
import StoreBridge.Value

/-! Values as variants: the name tells the class of the value, and the data is the value. -/
namespace StoreBridge.Value
open Document

/-- A value as a variant. -/
def toDocument : Value → Document
  | null => .text "null"
  | boolean b => .object [("boolean", .boolean b)]
  | integer n => .object [("integer", .integer n.toInt)]
  | real x => .object [("real", .real x)]
  | text s => .object [("text", .text s)]
  | blob octets => .object [("blob", .list (octets.map fun b => .integer b.toNat))]
  | guid g => .object [("guid", .text g.text)]
  | dateTime t => .object [("date_time", .text t.documentText)]

/-- The null value, by its name. -/
def nullOfName? (name : String) : Option Value :=
  if name = "null" then some null else none

/-- The value of a class, named, with this data. -/
def ofData? (name : String) (d : Document) : Option Value :=
  match name with
  | "boolean" => d.boolean?.map boolean
  | "integer" => d.integer?.bind fun n => (integer64? n).map integer
  | "real" => d.real?.map real
  | "text" => d.text?.map text
  | "blob" => (listOf? uint8? d).map blob
  | "guid" => d.text?.bind fun s => (Guid.ofText? s).map guid
  | "date_time" => d.text?.bind fun s => (DateTime.ofText? s).map dateTime
  | _ => none

/-- The value that a variant is. -/
def ofDocument? (tolerance : Tolerance) (d : Document) : Option Value :=
  match plainVariant? tolerance nullOfName? d, d with
  | some v, _ => some v
  | none, .object [(name, data)] => ofData? name data
  | none, _ => none

end StoreBridge.Value
