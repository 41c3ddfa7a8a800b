/-! Integers that fit into 64 bits. -/
namespace StoreBridge

/-- The integer is one of 64 bits. -/
def InRange (n : Int) : Prop :=
  -9223372036854775808 ≤ n ∧ n ≤ 9223372036854775807

instance (n : Int) : Decidable (InRange n) :=
  inferInstanceAs (Decidable (_ ∧ _))

/-- The integer as one of 64 bits, if it fits. -/
def integer64? (n : Int) : Option Int64 :=
  if InRange n then some (Int64.ofInt n) else none

theorem inRange_toInt (n : Int64) : InRange n.toInt :=
  ⟨Int64.le_toInt n, Int64.toInt_le n⟩

theorem integer64?_toInt (n : Int64) : integer64? n.toInt = some n := by
  simp [integer64?, inRange_toInt]

end StoreBridge
