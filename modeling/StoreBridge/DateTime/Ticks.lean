import StoreBridge.DateTime.Text
import StoreBridge.Failure
import StoreBridge.Integer64

/-! Ticks count tenths of a microsecond from the beginning of year 1. Whole microseconds are counted
toward zero, and the hundreds of nanoseconds of the date/time itself are added to ten times their
number; a count that leaves the range of 64-bit numbers at the multiplication is refused. -/
namespace StoreBridge.DateTime

/-- The number of whole microseconds from the beginning of year 1, counted toward zero. -/
def microseconds (t : DateTime) : Int :=
  t.nanoseconds.tdiv 1000

/-- The hundreds of nanoseconds beyond the whole microseconds of the second. -/
def subMicrosecond (t : DateTime) : Nat :=
  t.nano % 1000 / 100

/-- The number of ticks. -/
def ticks (t : DateTime) : Except Failure Int64 :=
  if InRange (10 * t.microseconds) then
    .ok (Int64.ofInt (10 * t.microseconds) + Int64.ofNat t.subMicrosecond)
  else .error (.ticksOverflow (t.fullText ' '))

end StoreBridge.DateTime
