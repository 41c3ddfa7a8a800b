import StoreBridge.ConceptualType
import StoreBridge.Facets.Record

/-! Conceptual types as records: only a kind with facets that apply to it can be read. -/
namespace StoreBridge.ConceptualType
open Document

/-- A conceptual type as a record. -/
def toDocument (t : ConceptualType) : Document :=
  ofMembers [("kind", some (.text t.kind.name)), ("facets", t.facets.toMember)]

/-- The conceptual type that a record is. -/
def ofDocument? (tolerance : Tolerance) (d : Document) : Option ConceptualType := do
  let [kind, facets] ← d.fields? ["kind", "facets"] 1 false | none
  let kind ← required? (plainVariant? tolerance Kind.ofName?) kind
  let facets ← defaulted? {} Facets.ofDocument? facets
  (make kind facets).toOption

end StoreBridge.ConceptualType
