import StoreBridge.Failure

/-! The two forms in which date/times are stored. The manifest token names the form. -/
namespace StoreBridge
open Text

/-- How date/times are stored: as a count of ticks or as a text. -/
inductive DateTimeForm where
  | ticks
  | iso8601
deriving DecidableEq

namespace DateTimeForm

/-- The token that names the form. -/
def token : DateTimeForm → String
  | ticks => "Ticks"
  | iso8601 => "ISO8601"

/-- The form that a token names, in any case and with blanks around it. -/
def ofToken (s : String) : Except Failure DateTimeForm :=
  let word := lower (trim s)
  if word = "ticks" then .ok ticks
  else if word = "iso8601" then .ok iso8601
  else .error (.unknownToken word)

end DateTimeForm
end StoreBridge
