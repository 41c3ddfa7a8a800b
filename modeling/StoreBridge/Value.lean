import StoreBridge.DateTime.Ticks
import StoreBridge.DateTimeForm
import StoreBridge.Guid
import StoreBridge.Sql.Datum

/-! The values of parameters and constants, and the value of the store that each is sent as. -/
namespace StoreBridge

/-- A value of a parameter or a constant. -/
inductive Value where
  | null
  | boolean (b : Bool)
  | integer (n : Int64)
  | real (x : Binary64)
  | text (s : String)
  | blob (octets : List UInt8)
  | guid (g : Guid)
  | dateTime (t : DateTime)
deriving DecidableEq

/-- The value of the store that a value is sent as: a flag as zero or one, an identifier as its
octets, and a date/time in one of the two forms. -/
def Value.datum (form : DateTimeForm) : Value → Except Failure Datum
  | null => .ok .null
  | boolean b => .ok (.integer (if b then 1 else 0))
  | integer n => .ok (.integer n)
  | real x => .ok (.real x)
  | text s => .ok (.text s)
  | blob octets => .ok (.blob octets)
  | guid g => .ok (.blob g.octets)
  | dateTime t => match form with
    | .iso8601 => .ok (.text t.storeText)
    | .ticks => t.ticks.map .integer

/-- The literal of a value. -/
def Value.literal (form : DateTimeForm) (v : Value) : Except Failure String := do
  (← v.datum form).literal

end StoreBridge
