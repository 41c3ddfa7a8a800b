import StoreBridge.Catalog
import StoreBridge.Document.Toml
import StoreBridge.Facets.Record

/-! Catalogs as documents: a version, a title under the name of a namespace, and the list of the
store types. Further documents come with a catalog; nothing is taken from them, but they have to be
well formed. -/
namespace StoreBridge
open Document

/-- The rule for a limit that a record is. -/
def RangeRule.ofDocument? {α : Type} (number? : Document → Option α) (d : Document) :
    Option (RangeRule α) := do
  let [least, greatest, default, constant] ←
    d.fields? ["min", "max", "default", "constant"] 3 false | none
  return {
    least := ← required? number? least
    greatest := ← required? number? greatest
    default := ← optional? (Limit.ofDocument? number?) default
    constant := ← defaulted? false boolean? constant }

/-- The rule for a flag that a record is. -/
def FlagRule.ofDocument? (d : Document) : Option FlagRule := do
  let [default, constant] ← d.fields? ["default", "constant"] 1 false | none
  return ⟨← required? boolean? default, ← defaulted? false boolean? constant⟩

/-- The store type of a catalog that a record is. -/
def CatalogEntry.ofDocument? (d : Document) : Option CatalogEntry := do
  let names := ["name", "primitive", "max_length", "precision", "scale", "unicode",
    "fixed_length", "preserve_seconds"]
  let [name, kind, maxLength, precision, scale, unicode, fixedLength, preserveSeconds] ←
    d.fields? names 8 true | none
  return {
    name := ← required? text? name
    kind := ← required? (plainVariant? .tolerant Kind.ofName?) kind
    maxLength := ← optional? (RangeRule.ofDocument? uint32?) maxLength
    precision := ← optional? (RangeRule.ofDocument? uint8?) precision
    scale := ← optional? (RangeRule.ofDocument? uint8?) scale
    unicode := ← optional? FlagRule.ofDocument? unicode
    fixedLength := ← optional? FlagRule.ofDocument? fixedLength
    preserveSeconds := ← optional? FlagRule.ofDocument? preserveSeconds }

namespace Catalog

/-- The parts of a catalog. -/
structure Manifest where
  version : UInt32
  title : String
  entries : List CatalogEntry
deriving DecidableEq

/-- The parts of a catalog that a record states. -/
def Manifest.ofDocument? (d : Document) : Option Manifest := do
  let [version, title, entries] ← d.fields? ["version", "namespace", "types"] 3 false | none
  return ⟨← required? uint32? version, ← required? text? title,
    ← required? (listOf? CatalogEntry.ofDocument?) entries⟩

/-- The catalog that a text describes, with further documents. -/
def load (text : String) (documents : List String) : Except Failure Catalog :=
  match (Toml.read? text).bind Manifest.ofDocument? with
  | none => .error .badToml
  | some m =>
    if documents.all Toml.isDocument then ofEntries m.title m.version m.entries
    else .error .badToml

end Catalog
end StoreBridge
