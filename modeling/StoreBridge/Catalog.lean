import StoreBridge.StoreType
import StoreBridge.Failure

/-! The catalog of store types: for each, the primitive kind that it surfaces as and the facets that
it accepts. Names are unique up to case, so that a name finds at most one entry; a catalog is made
from a list of entries exactly when that holds of them. -/
namespace StoreBridge
open Text

/-- How a facet with a limit may be stated. -/
structure RangeRule (α : Type) where
  least : α
  greatest : α
  default : Option (Limit α) := none
  /-- The facet is fixed by the name and never stated. -/
  constant : Bool := false
deriving DecidableEq

/-- How a flag may be stated. -/
structure FlagRule where
  default : Bool
  /-- The facet is fixed by the name and never stated. -/
  constant : Bool := false
deriving DecidableEq

/-- A store type of the catalog: facets without a rule are not declared. -/
structure CatalogEntry where
  name : String
  kind : Kind
  maxLength : Option (RangeRule UInt32) := none
  precision : Option (RangeRule UInt8) := none
  scale : Option (RangeRule UInt8) := none
  unicode : Option FlagRule := none
  fixedLength : Option FlagRule := none
  preserveSeconds : Option FlagRule := none
deriving DecidableEq

/-- What a rule has against a limit. -/
def RangeRule.fault? {α : Type} [LT α] [DecidableLT α] (rule : Option (RangeRule α))
    (stated : Option (Limit α)) : Option FacetFault :=
  match stated, rule with
  | none, _ => none
  | some _, none => some .notDeclared
  | some limit, some rule =>
    if rule.constant then some .constant
    else match limit with
      | .bounded v => if v < rule.least ∨ rule.greatest < v then some .outOfRange else none
      | .unbounded => none

/-- What a rule has against a flag. -/
def FlagRule.fault? (rule : Option FlagRule) (stated : Option Bool) : Option FacetFault :=
  match stated, rule with
  | none, _ => none
  | some _, none => some .notDeclared
  | some _, some rule => if rule.constant then some .constant else none

namespace CatalogEntry

/-- The greatest length that the store type can have. -/
def maxLengthLimit? (e : CatalogEntry) : Option UInt32 :=
  e.maxLength.map (·.greatest)

/-- What the rules of the entry have against facets, by the name of the facet. -/
def faults (e : CatalogEntry) (f : Facets) : List (String × Option FacetFault) :=
  [("MaxLength", RangeRule.fault? e.maxLength f.maxLength),
    ("Precision", RangeRule.fault? e.precision f.precision),
    ("Scale", RangeRule.fault? e.scale f.scale),
    ("Unicode", FlagRule.fault? e.unicode f.unicode),
    ("FixedLength", FlagRule.fault? e.fixedLength f.fixedLength),
    ("PreserveSeconds", FlagRule.fault? e.preserveSeconds f.preserveSeconds)]

/-- The first facet that the entry refuses, and why. -/
def fault? (e : CatalogEntry) (f : Facets) : Option Failure :=
  (e.faults f).findSome? fun (facet, fault) => fault.map (Failure.facetRefused facet · e.name)

end CatalogEntry

/-- No two entries have the same name up to case. -/
def DistinctNames (entries : List CatalogEntry) : Prop :=
  entries.Pairwise fun a b => sameName a.name b.name = false

instance (entries : List CatalogEntry) : Decidable (DistinctNames entries) :=
  inferInstanceAs (Decidable (entries.Pairwise _))

/-- The first entry whose name is among those seen before it. -/
def firstRepeat? (seen : List String) : List CatalogEntry → Option CatalogEntry
  | [] => none
  | e :: rest =>
    if seen.any (sameName · e.name) then some e else firstRepeat? (e.name :: seen) rest

theorem firstRepeat?_eq_none_iff (seen : List String) (entries : List CatalogEntry) :
    firstRepeat? seen entries = none ↔
      DistinctNames entries ∧ ∀ e ∈ entries, ∀ s ∈ seen, sameName s e.name = false := by
  induction entries generalizing seen with
  | nil => simp [firstRepeat?, DistinctNames]
  | cons e rest ih =>
    simp only [firstRepeat?, DistinctNames, List.pairwise_cons, List.mem_cons, forall_eq_or_imp]
    split
    · rename_i h
      simp only [List.any_eq_true] at h
      obtain ⟨s, hs, hse⟩ := h
      simp only [reduceCtorEq, false_iff, not_and]
      intro _ hseen
      simp [hseen s hs] at hse
    · rename_i h
      simp only [List.any_eq_true, not_exists, not_and, Bool.not_eq_true] at h
      rw [ih]
      simp only [DistinctNames, List.mem_cons, forall_eq_or_imp]
      grind

/-- A catalog: what it is called, and its entries in the order of their declaration. -/
structure Catalog where
  title : String
  version : UInt32
  entries : List CatalogEntry
  distinct : DistinctNames entries

namespace Catalog

/-- The catalog with these entries, or the first entry whose name repeats an earlier one. -/
def ofEntries (title : String) (version : UInt32) (entries : List CatalogEntry) :
    Except Failure Catalog :=
  match h : firstRepeat? [] entries with
  | some e => .error (.storeTypeRepeated e.name)
  | none => .ok ⟨title, version, entries, ((firstRepeat?_eq_none_iff [] entries).1 h).1⟩

/-- The entry that a name finds, in any case. -/
def find? (c : Catalog) (name : String) : Option CatalogEntry :=
  c.entries.find? fun e => sameName e.name name

/-- The entry that a name finds, which has to be there. -/
def require (c : Catalog) (name : String) : Except Failure CatalogEntry :=
  match c.find? name with
  | some e => .ok e
  | none => .error (.storeTypeMissing name c.title)

/-- The store type of the entry that a name finds, with these facets if the entry accepts them. -/
def usage (c : Catalog) (name : String) (f : Facets) : Except Failure StoreType := do
  let e ← c.require name
  match e.fault? f with
  | some failure => .error failure
  | none => .ok ⟨e.name, f⟩

end Catalog
end StoreBridge
