import StoreBridge.Facets.Record
import StoreBridge.StoreType

/-! Store types as records. -/
namespace StoreBridge.StoreType
open Document

/-- A store type as a record. -/
def toDocument (t : StoreType) : Document :=
  ofMembers [("name", some (.text t.name)), ("facets", t.facets.toMember)]

/-- The store type that a record is. -/
def ofDocument? (d : Document) : Option StoreType := do
  let [name, facets] ← d.fields? ["name", "facets"] 1 false | none
  return ⟨← required? text? name, ← defaulted? {} Facets.ofDocument? facets⟩

end StoreBridge.StoreType
