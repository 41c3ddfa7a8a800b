import StoreBridge.Text.Blank
import StoreBridge.Text.Letter

/-! The primitive kinds of the conceptual model. A kind is named by its spelling, which is looked up
without regard to case or to blanks around it. -/
namespace StoreBridge

/-- The primitive kinds. -/
inductive Kind where
  | boolean | byte | sByte | int16 | int32 | int64 | single | double | decimal | guid | string
  | binary | dateTime | dateTimeOffset | time
deriving DecidableEq

namespace Kind

/-- Every kind once, in the order in which they are listed. -/
def all : List Kind :=
  [boolean, byte, sByte, int16, int32, int64, single, double, decimal, guid, string, binary,
    dateTime, dateTimeOffset, time]

/-- The spelling of a kind. -/
def name : Kind → String
  | boolean => "Boolean"
  | byte => "Byte"
  | sByte => "SByte"
  | int16 => "Int16"
  | int32 => "Int32"
  | int64 => "Int64"
  | single => "Single"
  | double => "Double"
  | decimal => "Decimal"
  | guid => "Guid"
  | string => "String"
  | binary => "Binary"
  | dateTime => "DateTime"
  | dateTimeOffset => "DateTimeOffset"
  | time => "Time"

/-- Texts and blobs have a length. -/
def isLengthBearing : Kind → Bool
  | string | binary => true
  | _ => false

/-- The kind with exactly this spelling. -/
def ofName? (s : String) : Option Kind :=
  all.find? fun k => k.name == s

/-- The kind that a text names, whatever its case and the blanks around it. -/
def find? (s : String) : Option Kind :=
  all.find? fun k => Text.sameName k.name (Text.trim s)

theorem mem_all (k : Kind) : k ∈ all := by cases k <;> decide

theorem name_injective {a b : Kind} (h : a.name = b.name) : a = b := by
  revert h; cases a <;> cases b <;> decide

theorem ofName?_name (k : Kind) : ofName? k.name = some k := by
  cases k <;> decide

end Kind
end StoreBridge
