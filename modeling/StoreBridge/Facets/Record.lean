import StoreBridge.Document.Record
import StoreBridge.Facets
import StoreBridge.Text.Letter

/-! Facets as records. A facet that is not stated has no member, and an unbounded one is a word. -/
namespace StoreBridge
open Document

/-- A limit as a document. -/
def Limit.toDocument {α : Type} (number : α → Nat) : Limit α → Document
  | .unbounded => .text Limit.keyword
  | .bounded v => .integer (number v)

/-- The limit that a document is: a number, or the word in any case. -/
def Limit.ofDocument? {α : Type} (number? : Document → Option α) (d : Document) :
    Option (Limit α) :=
  match d with
  | .text s => if Text.sameName s Limit.keyword then some .unbounded else none
  | d => (number? d).map .bounded

namespace Facets

/-- Facets as a record. -/
def toDocument (f : Facets) : Document :=
  ofMembers
    [("max_length", f.maxLength.map (Limit.toDocument UInt32.toNat)),
      ("precision", f.precision.map (Limit.toDocument UInt8.toNat)),
      ("scale", f.scale.map (Limit.toDocument UInt8.toNat)),
      ("unicode", f.unicode.map .boolean),
      ("fixed_length", f.fixedLength.map .boolean),
      ("preserve_seconds", f.preserveSeconds.map .boolean),
      ("nullable", f.nullable.map .boolean)]

/-- The facets that a record states. -/
def ofDocument? (d : Document) : Option Facets := do
  let names := ["max_length", "precision", "scale", "unicode", "fixed_length",
    "preserve_seconds", "nullable"]
  let [maxLength, precision, scale, unicode, fixedLength, preserveSeconds, nullable] ←
    d.fields? names 0 true | none
  return {
    maxLength := ← optional? (Limit.ofDocument? uint32?) maxLength
    precision := ← optional? (Limit.ofDocument? uint8?) precision
    scale := ← optional? (Limit.ofDocument? uint8?) scale
    unicode := ← optional? boolean? unicode
    fixedLength := ← optional? boolean? fixedLength
    preserveSeconds := ← optional? boolean? preserveSeconds
    nullable := ← optional? boolean? nullable }

/-- The member that holds facets: there is none if no facet is stated. -/
def toMember (f : Facets) : Option Document :=
  if f.isEmpty then none else some f.toDocument

end Facets
end StoreBridge
