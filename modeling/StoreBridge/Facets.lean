/-! Facets refine a primitive kind: how long a text is, how many digits a number has, and so on. A
facet that is absent is not the same as one that is present and unbounded. -/
namespace StoreBridge

/-- A length or a number of digits: unbounded, or at most some value. -/
inductive Limit (α : Type) where
  | unbounded
  | bounded (value : α)
deriving DecidableEq

namespace Limit
variable {α : Type}

/-- The bound, if there is one. -/
def value? : Limit α → Option α
  | unbounded => none
  | bounded v => some v

/-- The word for the absence of a bound. -/
def keyword : String := "unbounded"

end Limit

/-- The facets that are stated, each at most once. -/
structure Facets where
  maxLength : Option (Limit UInt32) := none
  precision : Option (Limit UInt8) := none
  scale : Option (Limit UInt8) := none
  unicode : Option Bool := none
  fixedLength : Option Bool := none
  preserveSeconds : Option Bool := none
  nullable : Option Bool := none
deriving DecidableEq

namespace Facets

/-- No facet is stated. -/
def isEmpty (f : Facets) : Bool :=
  f == {}

/-- The greatest length, if there is a bound. -/
def maxLengthValue? (f : Facets) : Option UInt32 :=
  f.maxLength.bind Limit.value?

/-- The precision, if there is a bound. -/
def precisionValue? (f : Facets) : Option UInt8 :=
  f.precision.bind Limit.value?

/-- The scale, if there is a bound. -/
def scaleValue? (f : Facets) : Option UInt8 :=
  f.scale.bind Limit.value?

end Facets
end StoreBridge
