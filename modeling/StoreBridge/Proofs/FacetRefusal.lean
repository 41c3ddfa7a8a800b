import StoreBridge.Facets.Assignment
import StoreBridge.Proofs.CatalogIndex

/-! What a catalog answers when a store type is asked for by its name and with facets. An entry can
have three things against a facet that is stated: that it does not declare the facet, that the facet
is fixed by the name, and that a number lies outside of its range. Facets are looked at in a fixed
order, and the first thing against the first of them is reported; whatever there is against the
others is not. Without an objection the store type has the spelling of the entry and the facets that
were asked for, so that asking for what was answered changes nothing. -/
namespace StoreBridge
open Text

/-- What rules look at of a stated facet: its number, if it is bounded by one. -/
inductive Stated where
  | number (n : Nat)
  | other

/-- What a limit states. -/
def Limit.stated {α : Type} (number : α → Nat) : Limit α → Stated
  | .bounded v => .number (number v)
  | .unbounded => .other

/-- A rule for a facet: whether the facet is fixed, and the least and the greatest number if it has
numbers. -/
structure FacetRule where
  fixed : Bool
  range : Option (Nat × Nat)

/-- The rule for a limit. -/
def RangeRule.rule {α : Type} (number : α → Nat) (r : RangeRule α) : FacetRule :=
  ⟨r.constant, some (number r.least, number r.greatest)⟩

/-- The rule for a flag. -/
def FlagRule.rule (r : FlagRule) : FacetRule :=
  ⟨r.constant, none⟩

/-- What there is against a facet, by the rule for it and what is stated of it. -/
inductive Objection : Option FacetRule → Option Stated → FacetFault → Prop where
  | notDeclared {stated : Stated} : Objection none (some stated) .notDeclared
  | constant {rule : FacetRule} {stated : Stated} (fixed : rule.fixed = true) :
      Objection (some rule) (some stated) .constant
  | outOfRange {rule : FacetRule} {n least greatest : Nat}
      (range : rule.range = some (least, greatest)) (outside : n < least ∨ greatest < n) :
      Objection (some rule) (some (.number n)) .outOfRange

/-- The objections in the order in which they are thought of. -/
def FacetFault.inOrder : List FacetFault :=
  [.notDeclared, .constant, .outOfRange]

/-- An objection of which none before it in the order can be made. -/
def FirstObjection (rule : Option FacetRule) (stated : Option Stated) (fault : FacetFault) : Prop :=
  Objection rule stated fault ∧ ∃ front behind, FacetFault.inOrder = front ++ fault :: behind ∧
    ∀ earlier ∈ front, ¬ Objection rule stated earlier

/-- A verdict names the first objection, or says that there is none. -/
inductive Verdict (rule : Option FacetRule) (stated : Option Stated) :
    Option FacetFault → Prop where
  | clear (nothing : ∀ fault, ¬ Objection rule stated fault) : Verdict rule stated none
  | against {fault : FacetFault} (first : FirstObjection rule stated fault) :
      Verdict rule stated (some fault)

section Verdicts
variable {rule : Option FacetRule} {stated : Option Stated} {fault other : FacetFault}

theorem firstObjection_notDeclared {s : Stated} : FirstObjection none (some s) .notDeclared :=
  ⟨.notDeclared, [], [.constant, .outOfRange], rfl, fun _ none => nomatch none⟩

theorem firstObjection_constant {r : FacetRule} {s : Stated} (fixed : r.fixed = true) :
    FirstObjection (some r) (some s) .constant := by
  refine ⟨.constant fixed, [.notDeclared], [.outOfRange], rfl, ?_⟩
  intro earlier among objection
  rw [List.mem_singleton.mp among] at objection
  cases objection

theorem firstObjection_outOfRange {r : FacetRule} {n least greatest : Nat}
    (varies : r.fixed = false) (range : r.range = some (least, greatest))
    (outside : n < least ∨ greatest < n) :
    FirstObjection (some r) (some (.number n)) .outOfRange := by
  refine ⟨.outOfRange range outside, [.notDeclared, .constant], [], rfl, ?_⟩
  intro earlier among objection
  cases objection with
  | constant fixed => exact absurd (varies.symm.trans fixed) Bool.false_ne_true
  | outOfRange => simp at among

/-- There is no more than one first objection. -/
theorem FirstObjection.unique (first : FirstObjection rule stated fault)
    (again : FirstObjection rule stated other) : fault = other := by
  obtain ⟨objection, front, behind, order, none⟩ := first
  obtain ⟨objection', front', behind', order', none'⟩ := again
  rw [order] at order'
  rcases List.append_eq_append_iff.mp order' with ⟨between, rfl, rest⟩ | ⟨between, rfl, rest⟩
  · cases between with
    | nil => exact (List.cons.inj rest).1
    | cons a between =>
      obtain ⟨rfl, -⟩ := List.cons.inj rest
      exact absurd objection (none' _ (by simp))
  · cases between with
    | nil => exact (List.cons.inj rest).1.symm
    | cons a between =>
      obtain ⟨rfl, -⟩ := List.cons.inj rest
      exact absurd objection' (none _ (by simp))

theorem Verdict.eq_some_iff {verdict : Option FacetFault} (given : Verdict rule stated verdict) :
    verdict = some fault ↔ FirstObjection rule stated fault := by
  cases given with
  | clear nothing =>
    constructor
    · intro never
      cases never
    · intro first
      exact absurd first.1 (nothing fault)
  | against first =>
    rw [Option.some.injEq]
    constructor
    · rintro rfl
      exact first
    · exact first.unique

theorem Verdict.eq_none_iff {verdict : Option FacetFault} (given : Verdict rule stated verdict) :
    verdict = none ↔ ∀ fault, ¬ Objection rule stated fault := by
  cases given with
  | clear nothing => exact ⟨fun _ => nothing, fun _ => rfl⟩
  | @against fault first =>
    constructor
    · intro never
      cases never
    · intro nothing
      exact absurd first.1 (nothing fault)

/-- There is nothing against a facet that is not stated. -/
theorem verdict_unstated : Verdict rule none none :=
  .clear fun _ objection => nomatch objection

/-- The check of a limit comes to a verdict, whatever the limits are numbers of. -/
theorem RangeRule.fault?_verdict {α : Type} [LT α] [DecidableLT α] {number : α → Nat}
    (order : ∀ a b, a < b ↔ number a < number b) (rule : Option (RangeRule α))
    (limit : Option (Limit α)) :
    Verdict (rule.map (RangeRule.rule number)) (limit.map (Limit.stated number))
      (RangeRule.fault? rule limit) := by
  cases limit with
  | none => exact verdict_unstated
  | some limit =>
    cases rule with
    | none => exact .against firstObjection_notDeclared
    | some r =>
      show Verdict (some (r.rule number)) (some (limit.stated number)) (if _ then _ else _)
      cases fixed : r.constant with
      | true =>
        rw [if_pos rfl]
        exact .against (firstObjection_constant fixed)
      | false =>
        rw [if_neg Bool.false_ne_true]
        cases limit with
        | unbounded =>
          refine .clear fun fault objection => ?_
          cases objection with
          | constant always => exact absurd (fixed.symm.trans always) Bool.false_ne_true
        | bounded v =>
          show Verdict (some (r.rule number)) (some (.number (number v))) (if _ then _ else _)
          by_cases outside : v < r.least ∨ r.greatest < v
          · rw [if_pos outside]
            rw [order, order] at outside
            exact .against (firstObjection_outOfRange fixed rfl outside)
          · rw [if_neg outside]
            rw [order, order] at outside
            refine .clear fun fault objection => ?_
            cases objection with
            | constant always => exact absurd (fixed.symm.trans always) Bool.false_ne_true
            | outOfRange range beyond =>
              cases range
              exact outside beyond

theorem FlagRule.fault?_verdict (rule : Option FlagRule) (flag : Option Bool) :
    Verdict (rule.map FlagRule.rule) (flag.map fun _ => .other) (FlagRule.fault? rule flag) := by
  cases flag with
  | none => exact verdict_unstated
  | some flag =>
    cases rule with
    | none => exact .against firstObjection_notDeclared
    | some r =>
      show Verdict (some r.rule) (some .other) (if _ then _ else _)
      by_cases fixed : r.constant = true
      · rw [if_pos fixed]
        exact .against (firstObjection_constant fixed)
      · rw [if_neg fixed]
        refine .clear fun fault objection => ?_
        cases objection with
        | constant always => exact fixed always

end Verdicts

/-- The facets that entries have rules for, in the order in which they are looked at. -/
def FacetName.ruled : List FacetName :=
  [.maxLength, .precision, .scale, .unicode, .fixedLength, .preserveSeconds]

/-- What a facet is called where it is refused. -/
def FacetName.title : FacetName → String
  | .maxLength => "MaxLength"
  | .precision => "Precision"
  | .scale => "Scale"
  | .unicode => "Unicode"
  | .fixedLength => "FixedLength"
  | .preserveSeconds => "PreserveSeconds"
  | .nullable => "Nullable"

/-- What is stated of a facet. -/
def Facets.stated? (f : Facets) : FacetName → Option Stated
  | .maxLength => f.maxLength.map (Limit.stated UInt32.toNat)
  | .precision => f.precision.map (Limit.stated UInt8.toNat)
  | .scale => f.scale.map (Limit.stated UInt8.toNat)
  | .unicode => f.unicode.map fun _ => .other
  | .fixedLength => f.fixedLength.map fun _ => .other
  | .preserveSeconds => f.preserveSeconds.map fun _ => .other
  | .nullable => f.nullable.map fun _ => .other

namespace CatalogEntry
variable {e : CatalogEntry} {f : Facets} {n : FacetName} {fault : FacetFault}

/-- The rule that an entry has for a facet. Whether a type is nullable is not for it to say. -/
def rule? (e : CatalogEntry) : FacetName → Option FacetRule
  | .maxLength => e.maxLength.map (RangeRule.rule UInt32.toNat)
  | .precision => e.precision.map (RangeRule.rule UInt8.toNat)
  | .scale => e.scale.map (RangeRule.rule UInt8.toNat)
  | .unicode => e.unicode.map FlagRule.rule
  | .fixedLength => e.fixedLength.map FlagRule.rule
  | .preserveSeconds => e.preserveSeconds.map FlagRule.rule
  | .nullable => none

/-- Something can be said against a facet that the entry looks at. -/
def Objects (e : CatalogEntry) (f : Facets) : Prop :=
  ∃ n ∈ FacetName.ruled, ∃ fault, Objection (e.rule? n) (f.stated? n) fault

/-- The first thing against the first of the facets that there is something against. -/
def ObjectsFirst (e : CatalogEntry) (f : Facets) (n : FacetName) (fault : FacetFault) : Prop :=
  FirstObjection (e.rule? n) (f.stated? n) fault ∧
    ∃ front behind, FacetName.ruled = front ++ n :: behind ∧
      ∀ m ∈ front, ∀ fault, ¬ Objection (e.rule? m) (f.stated? m) fault

/-- What the check of one facet finds. -/
def fault?On (e : CatalogEntry) (f : Facets) : FacetName → Option FacetFault
  | .maxLength => RangeRule.fault? e.maxLength f.maxLength
  | .precision => RangeRule.fault? e.precision f.precision
  | .scale => RangeRule.fault? e.scale f.scale
  | .unicode => FlagRule.fault? e.unicode f.unicode
  | .fixedLength => FlagRule.fault? e.fixedLength f.fixedLength
  | .preserveSeconds => FlagRule.fault? e.preserveSeconds f.preserveSeconds
  | .nullable => FlagRule.fault? none f.nullable

theorem fault?On_verdict (e : CatalogEntry) (f : Facets) (n : FacetName) :
    Verdict (e.rule? n) (f.stated? n) (e.fault?On f n) := by
  cases n with
  | maxLength => exact RangeRule.fault?_verdict (fun _ _ => UInt32.lt_iff_toNat_lt) ..
  | precision => exact RangeRule.fault?_verdict (fun _ _ => UInt8.lt_iff_toNat_lt) ..
  | scale => exact RangeRule.fault?_verdict (fun _ _ => UInt8.lt_iff_toNat_lt) ..
  | unicode => exact FlagRule.fault?_verdict ..
  | fixedLength => exact FlagRule.fault?_verdict ..
  | preserveSeconds => exact FlagRule.fault?_verdict ..
  | nullable => exact FlagRule.fault?_verdict none f.nullable

/-- The facets are checked in their order. -/
theorem fault?_eq (e : CatalogEntry) (f : Facets) :
    e.fault? f = FacetName.ruled.findSome? fun n =>
      (e.fault?On f n).map (Failure.facetRefused n.title · e.name) :=
  rfl

/-- What is reported is the first thing against the first facet. -/
theorem fault?_eq_some_iff {failure : Failure} : e.fault? f = some failure ↔
    ∃ n fault, e.ObjectsFirst f n fault ∧ failure = .facetRefused n.title fault e.name := by
  rw [fault?_eq, List.findSome?_eq_some_iff]
  constructor
  · rintro ⟨front, n, behind, order, found, passed⟩
    obtain ⟨fault, first, rfl⟩ := Option.map_eq_some_iff.mp found
    have against := (fault?On_verdict e f n).eq_some_iff.mp first
    refine ⟨n, fault, ⟨against, front, behind, order, ?_⟩, rfl⟩
    intro m among
    exact (fault?On_verdict e f m).eq_none_iff.mp (Option.map_eq_none_iff.mp (passed m among))
  · rintro ⟨n, fault, ⟨first, front, behind, order, passed⟩, rfl⟩
    refine ⟨front, n, behind, order, ?_, ?_⟩
    · rw [(fault?On_verdict e f n).eq_some_iff.mpr first]
      rfl
    · intro m among
      rw [(fault?On_verdict e f m).eq_none_iff.mpr (passed m among)]
      rfl

/-- Nothing is reported exactly when there is nothing against any of the facets. -/
theorem fault?_eq_none_iff_clear : e.fault? f = none ↔ ¬ e.Objects f := by
  rw [fault?_eq, List.findSome?_eq_none_iff]
  constructor
  · rintro passed ⟨n, among, fault, objection⟩
    have found := Option.map_eq_none_iff.mp (passed n among)
    exact (fault?On_verdict e f n).eq_none_iff.mp found fault objection
  · intro clear n among
    rw [(fault?On_verdict e f n).eq_none_iff.mpr fun fault objection =>
      clear ⟨n, among, fault, objection⟩]
    rfl

end CatalogEntry

namespace Catalog
variable {c : Catalog} {name : String} {f : Facets} {e : CatalogEntry}

/-- What asking for a store type by a name and with facets comes to. -/
inductive Usage (c : Catalog) (name : String) (f : Facets) : Except Failure StoreType → Prop where
  | missing (unknown : ∀ e ∈ c.entries, sameName e.name name = false) :
      Usage c name f (.error (.storeTypeMissing name c.title))
  | refused {e : CatalogEntry} {n : FacetName} {fault : FacetFault} (listed : e ∈ c.entries)
      (named : sameName e.name name = true) (first : e.ObjectsFirst f n fault) :
      Usage c name f (.error (.facetRefused n.title fault e.name))
  | granted {e : CatalogEntry} (listed : e ∈ c.entries) (named : sameName e.name name = true)
      (clear : ¬ e.Objects f) : Usage c name f (.ok ⟨e.name, f⟩)

/-- A name finds the entry that has it: there is only one. -/
theorem find?_eq_some_iff_listed :
    c.find? name = some e ↔ e ∈ c.entries ∧ sameName e.name name = true := by
  have only := filter_sameName c.distinct name
  calc c.find? name = some e
      ↔ e ∈ c.entries.filter (sameName ·.name name) := by
        rw [only, Option.mem_toList]
        rfl
    _ ↔ e ∈ c.entries ∧ sameName e.name name = true := by rw [List.mem_filter]

theorem find?_eq_none_iff_unknown :
    c.find? name = none ↔ ∀ e ∈ c.entries, sameName e.name name = false := by
  unfold find?
  simp

theorem usage_missing (unknown : c.find? name = none) :
    c.usage name f = .error (.storeTypeMissing name c.title) := by
  simp [usage, require, unknown, bind, Except.bind]

theorem usage_found (found : c.find? name = some e) :
    c.usage name f = (e.fault? f).elim (.ok ⟨e.name, f⟩) .error := by
  simp only [usage, require, found, bind, Except.bind]
  cases e.fault? f <;> rfl

theorem exists_usage (c : Catalog) (name : String) (f : Facets) :
    Usage c name f (c.usage name f) := by
  cases found : c.find? name with
  | none =>
    rw [usage_missing found]
    exact .missing (find?_eq_none_iff_unknown.mp found)
  | some e =>
    obtain ⟨listed, named⟩ := find?_eq_some_iff_listed.mp found
    rw [usage_found found]
    cases checked : e.fault? f with
    | none => exact .granted listed named (CatalogEntry.fault?_eq_none_iff_clear.mp checked)
    | some failure =>
      obtain ⟨n, fault, first, rfl⟩ := CatalogEntry.fault?_eq_some_iff.mp checked
      exact .refused listed named first

theorem Usage.usage_eq {result : Except Failure StoreType} (outcome : Usage c name f result) :
    c.usage name f = result := by
  cases outcome with
  | missing unknown => exact usage_missing (find?_eq_none_iff_unknown.mpr unknown)
  | refused listed named first =>
    rw [usage_found (find?_eq_some_iff_listed.mpr ⟨listed, named⟩),
      CatalogEntry.fault?_eq_some_iff.mpr ⟨_, _, first, rfl⟩]
    rfl
  | granted listed named clear =>
    rw [usage_found (find?_eq_some_iff_listed.mpr ⟨listed, named⟩),
      CatalogEntry.fault?_eq_none_iff_clear.mpr clear]
    rfl

/-- The message that a refused facet makes. -/
theorem message_facetRefused (facet : String) (fault : FacetFault) (storeType : String) :
    (Failure.facetRefused facet fault storeType).message = "Invalid argument: Facet '" ++ facet ++
      "' is " ++ fault.text ++ " for store type '" ++ storeType ++ "'" := by
  have opening : "Invalid argument: " ++ "Facet '" = "Invalid argument: Facet '" := by decide
  show "Invalid argument: " ++ ("Facet '" ++ facet ++ "' is " ++ fault.text ++
    " for store type '" ++ storeType ++ "'") = _
  rw [← opening]
  simp only [String.append_assoc]

/-- Where the answer is a failure, either no entry has the name, or the entry that has it objects to
a facet. -/
inductive Usage.Failed (c : Catalog) (name : String) (f : Facets) (failure : Failure) : Prop where
  | missing (category : failure.category = .providerIncompatible)
      (unknown : ∀ e ∈ c.entries, sameName e.name name = false)
  | refused {e : CatalogEntry} {n : FacetName} {fault : FacetFault}
      (category : failure.category = .invalidArgument) (listed : e ∈ c.entries)
      (named : sameName e.name name = true) (first : e.ObjectsFirst f n fault)
      (message : failure.message = "Invalid argument: Facet '" ++ n.title ++ "' is " ++
        fault.text ++ " for store type '" ++ e.name ++ "'")

theorem usage_failed {failure : Failure} (failed : c.usage name f = .error failure) :
    Usage.Failed c name f failure := by
  have outcome := exists_usage c name f
  rw [failed] at outcome
  cases outcome with
  | missing unknown => exact .missing rfl unknown
  | @refused e n fault listed named first =>
    exact .refused rfl listed named first (message_facetRefused n.title fault e.name)

theorem usage_missing_iff :
    (∃ failure, c.usage name f = .error failure ∧ failure.category = .providerIncompatible) ↔
      ∀ e ∈ c.entries, sameName e.name name = false := by
  constructor
  · rintro ⟨failure, failed, category⟩
    cases usage_failed failed with
    | missing _ unknown => exact unknown
    | refused invalid =>
      rw [category] at invalid
      cases invalid
  · intro unknown
    exact ⟨_, (Usage.missing unknown).usage_eq, rfl⟩

theorem usage_refused_iff :
    (∃ failure, c.usage name f = .error failure ∧ failure.category = .invalidArgument) ↔
      ∃ e ∈ c.entries, sameName e.name name = true ∧ e.Objects f := by
  constructor
  · rintro ⟨failure, failed, category⟩
    cases usage_failed failed with
    | missing incompatible =>
      rw [category] at incompatible
      cases incompatible
    | @refused e n fault _ listed named first =>
      obtain ⟨⟨objection, -⟩, front, behind, order, -⟩ := first
      exact ⟨e, listed, named, n, by simp [order], fault, objection⟩
  · rintro ⟨e, listed, named, objects⟩
    have found := usage_found (f := f) (find?_eq_some_iff_listed.mpr ⟨listed, named⟩)
    cases checked : e.fault? f with
    | none => exact absurd objects (CatalogEntry.fault?_eq_none_iff_clear.mp checked)
    | some failure =>
      obtain ⟨n, fault, -, rfl⟩ := CatalogEntry.fault?_eq_some_iff.mp checked
      rw [checked] at found
      exact ⟨_, found, rfl⟩

/-- Asking for a store type, in any catalog, fails for want of an entry exactly when no entry has
the name; it fails for its facets exactly when the entry of the name objects to one, and the message
then says what there is first against the first of them; and otherwise it answers the facets as they
are, under the spelling of the entry, for which it answers the same. -/
theorem usage_outcome (c : Catalog) (name : String) (f : Facets) :
    (∀ result, c.usage name f = result ↔ Usage c name f result) ∧
      ((∃ failure, c.usage name f = .error failure ∧ failure.category = .providerIncompatible) ↔
        ∀ e ∈ c.entries, sameName e.name name = false) ∧
      ((∃ failure, c.usage name f = .error failure ∧ failure.category = .invalidArgument) ↔
        ∃ e ∈ c.entries, sameName e.name name = true ∧ e.Objects f) ∧
      (∀ failure, c.usage name f = .error failure → Usage.Failed c name f failure) ∧
      ∀ s, c.usage name f = .ok s → c.usage s.name s.facets = .ok s := by
  have outcome := exists_usage c name f
  refine ⟨fun result => ⟨fun ended => ended ▸ outcome, Usage.usage_eq⟩, usage_missing_iff,
    usage_refused_iff, fun _ => usage_failed, ?_⟩
  intro s granted
  rw [granted] at outcome
  cases outcome with
  | granted listed _ clear => exact (Usage.granted listed (sameName_refl _) clear).usage_eq

/-- A fixed length that would also be out of range is refused for being fixed, and before the flag
that is not declared. -/
example :
    let wide : CatalogEntry :=
      { name := "wide", kind := .string, maxLength := some ⟨1, 10, none, true⟩ }
    let c : Catalog := ⟨"Test", 1, [wide], by decide⟩
    c.usage "WIDE" { maxLength := some (.bounded 20), unicode := some true } =
      .error (.facetRefused "MaxLength" .constant "wide") := by
  decide +kernel

end Catalog
end StoreBridge
