import StoreBridge.Catalog.Builtin

/-! What a catalog entry lets a store type state. The rules say it facet by facet, and the check of
a whole set of facets finds nothing against exactly those that every rule admits. A name, in any
case, finds an entry of the provider's own catalog exactly when it is a store kind's, and then it is
the entry of that kind. -/
namespace StoreBridge
open Text

/-- A facet with a limit may be absent. It may be stated only under a rule that leaves it open, and
a bounded one has to lie within the range of the rule. -/
def RangeRule.Admits {α : Type} [LE α] (rule : Option (RangeRule α))
    (stated : Option (Limit α)) : Prop :=
  ∀ limit, stated = some limit → ∃ r, rule = some r ∧ r.constant = false ∧
    ∀ v, limit = .bounded v → r.least ≤ v ∧ v ≤ r.greatest

theorem RangeRule.admits_bounded {α : Type} [LE α] {r : RangeRule α} {v : α}
    (varies : r.constant = false) (least : r.least ≤ v) (greatest : v ≤ r.greatest) :
    RangeRule.Admits (some r) (some (.bounded v)) := by
  intro limit stated
  cases stated
  refine ⟨r, rfl, varies, fun w same => ?_⟩
  cases same
  exact ⟨least, greatest⟩

theorem RangeRule.admits_unbounded {α : Type} [LE α] {r : RangeRule α}
    (varies : r.constant = false) : RangeRule.Admits (some r) (some .unbounded) := by
  intro limit stated
  cases stated
  exact ⟨r, rfl, varies, fun _ same => nomatch same⟩

/-- Without a rule there is nothing to state. -/
theorem RangeRule.Admits.eq_none {α : Type} [LE α] {stated : Option (Limit α)}
    (admits : RangeRule.Admits none stated) : stated = none := by
  cases stated with
  | none => rfl
  | some limit =>
    obtain ⟨r, rule, -⟩ := admits limit rfl
    cases rule

/-- A flag may be absent, and may be stated under a rule that leaves it open. -/
def FlagRule.Admits (rule : Option FlagRule) (stated : Option Bool) : Prop :=
  ∀ flag, stated = some flag → ∃ r, rule = some r ∧ r.constant = false

/-- The check of a limit says what the rule does not admit, whatever the limits are numbers of. -/
theorem RangeRule.fault?_eq_none_iff {α : Type} [LT α] [LE α] [DecidableLT α]
    [Std.IsLinearOrder α] [Std.LawfulOrderLT α] (rule : Option (RangeRule α))
    (stated : Option (Limit α)) :
    RangeRule.fault? rule stated = none ↔ RangeRule.Admits rule stated := by
  unfold fault? Admits
  cases stated with
  | none => simp
  | some limit =>
    cases rule with
    | none => simp
    | some rule => cases constant : rule.constant <;> cases limit <;> simp [constant, Std.not_lt]

theorem FlagRule.fault?_eq_none_iff (rule : Option FlagRule) (stated : Option Bool) :
    FlagRule.fault? rule stated = none ↔ FlagRule.Admits rule stated := by
  unfold fault? Admits
  cases stated <;> cases rule <;> simp

namespace CatalogEntry

/-- Every stated facet is one that the entry declares, leaves open and has room for. -/
structure Admits (e : CatalogEntry) (f : Facets) : Prop where
  maxLength : RangeRule.Admits e.maxLength f.maxLength
  precision : RangeRule.Admits e.precision f.precision
  scale : RangeRule.Admits e.scale f.scale
  unicode : FlagRule.Admits e.unicode f.unicode
  fixedLength : FlagRule.Admits e.fixedLength f.fixedLength
  preserveSeconds : FlagRule.Admits e.preserveSeconds f.preserveSeconds

/-- The check of a set of facets finds nothing exactly when the entry admits every facet. -/
theorem fault?_eq_none_iff (e : CatalogEntry) (f : Facets) : e.fault? f = none ↔ e.Admits f := by
  simp only [fault?, faults, List.findSome?_eq_none_iff, List.mem_cons, List.not_mem_nil, or_false,
    forall_eq_or_imp, forall_eq, Option.map_eq_none_iff, RangeRule.fault?_eq_none_iff,
    FlagRule.fault?_eq_none_iff]
  exact ⟨fun ⟨h1, h2, h3, h4, h5, h6⟩ => ⟨h1, h2, h3, h4, h5, h6⟩,
    fun ⟨h1, h2, h3, h4, h5, h6⟩ => ⟨h1, h2, h3, h4, h5, h6⟩⟩

/-- Nothing stated is always admitted. -/
theorem admits_nothing (e : CatalogEntry) : e.Admits {} := by
  constructor <;> exact fun _ stated => nomatch stated

end CatalogEntry

namespace StoreKind
variable {name other : String} {k : StoreKind}

theorem find?_congr (same : lower name = lower other) : find? name = find? other := by
  simp only [find?, sameName, same]

theorem find?_name (k : StoreKind) : find? k.name = some k := by
  cases k <;> decide +kernel

/-- The spellings of the store kinds differ by more than case, so that a name has one kind. -/
theorem find?_eq_some_iff : find? name = some k ↔ lower k.name = lower name := by
  constructor
  · intro found
    have spelt : sameName k.name name = true :=
      List.find?_some (p := fun k : StoreKind => sameName k.name name) found
    exact (sameName_iff _ _).mp spelt
  · intro same
    rw [← find?_congr same, find?_name]

end StoreKind

namespace Catalog

/-- A store type is used by the spelling of its entry, and with the facets that were asked for. -/
theorem usage_of_admits {c : Catalog} {name : String} {e : CatalogEntry} {f : Facets}
    (found : c.find? name = some e) (admitted : e.Admits f) : c.usage name f = .ok ⟨e.name, f⟩ := by
  have passed := (CatalogEntry.fault?_eq_none_iff e f).mpr admitted
  simp [usage, require, found, passed, bind, Except.bind]

/-- Each store kind has its entry in the provider's catalog. -/
theorem entryOf_mem_builtin (k : StoreKind) : entryOf k ∈ builtin.entries :=
  List.mem_map_of_mem (StoreKind.mem_all k)

theorem entryOf_name (k : StoreKind) : (entryOf k).name = k.name := by
  cases k <;> rfl

/-- Looking up a name in the catalog and among the store kinds comes to the same. -/
theorem builtin_find?_eq (name : String) :
    builtin.find? name = (StoreKind.find? name).map entryOf := by
  simp only [find?, builtin, List.find?_map, StoreKind.find?, Function.comp_def, entryOf_name]

theorem builtin_find?_name (k : StoreKind) : builtin.find? k.name = some (entryOf k) := by
  rw [builtin_find?_eq, StoreKind.find?_name, Option.map_some]

theorem builtin_require_name (k : StoreKind) : builtin.require k.name = .ok (entryOf k) := by
  simp [require, builtin_find?_name]

/-- What a store kind's entry admits is used under the kind's name. -/
theorem builtin_usage_name {k : StoreKind} {f : Facets} (admitted : (entryOf k).Admits f) :
    builtin.usage k.name f = .ok ⟨k.name, f⟩ := by
  rw [usage_of_admits (builtin_find?_name k) admitted, entryOf_name]

end Catalog
end StoreBridge
