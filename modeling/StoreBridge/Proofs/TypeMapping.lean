import StoreBridge.Proofs.StoreTypeMeaning

/-! The correspondence of conceptual types and store types. A type that the store can hold has a
store type that its catalog entry admits, and what comes back from the store type is the type's
normal form: the facets that the store keeps, with their defaults filled in. The normal form is said
by the facets alone, without the store. -/
namespace StoreBridge
open Text

/-- The store has no type for bytes with a sign, for moments with an offset and for times of day. -/
def Kind.isStorable : Kind → Bool
  | .sByte | .dateTimeOffset | .time => false
  | _ => true

namespace ConceptualType

/-- A length that the store can count is kept, and a greater one counts as no bound. -/
def normalLength : Option UInt32 → Limit UInt32
  | some n => if n ≤ 2147483647 then .bounded n else .unbounded
  | none => .unbounded

/-- The scale that is meant: none at all unless one is stated. -/
def normalScale (f : Facets) : UInt8 :=
  f.scaleValue?.getD 0

/-- The precision that is meant: eighteen digits, or as many as the scale needs. -/
def normalPrecision (f : Facets) : UInt8 :=
  f.precisionValue?.getD (max 18 (normalScale f))

/-- The facets of a normal form. Texts and blobs state all of theirs, decimals both numbers,
date/times only that seconds are lost, and whether a value may be null is no facet of it. -/
def normalFacets (kind : Kind) (f : Facets) : Facets :=
  match kind with
  | .decimal =>
    { precision := some (.bounded (normalPrecision f)), scale := some (.bounded (normalScale f)) }
  | .string =>
    { maxLength := some (normalLength f.maxLengthValue?)
      unicode := some (f.unicode.getD true)
      fixedLength := some (f.fixedLength.getD false) }
  | .binary =>
    { maxLength := some (normalLength f.maxLengthValue?)
      fixedLength := some (f.fixedLength.getD false) }
  | .dateTime =>
    { preserveSeconds := if f.preserveSeconds = some false then some false else none }
  | _ => {}

private theorem le_max_octet (a b : UInt8) : a ≤ max a b ∧ b ≤ max a b := by
  show a ≤ (if a ≤ b then b else a) ∧ b ≤ (if a ≤ b then b else a)
  split <;> simp_all [UInt8.le_iff_toNat_le]
  omega

/-- The scale that is meant never exceeds the precision that is meant. -/
theorem normalScale_le_normalPrecision (t : ConceptualType) :
    normalScale t.facets ≤ normalPrecision t.facets := by
  have bound := t.applicable.scale_le
  unfold normalPrecision
  cases p : t.facets.precisionValue? with
  | none => exact (le_max_octet _ _).2
  | some p =>
    cases s : t.facets.scaleValue? with
    | none => simp [normalScale, s]
    | some s => simp_all [normalScale]

theorem normalPrecision_ne_zero (t : ConceptualType) : normalPrecision t.facets ≠ 0 := by
  have positive := t.applicable.precision_pos
  unfold normalPrecision
  cases p : t.facets.precisionValue? with
  | some p => simp_all
  | none =>
    intro zero
    have room : (18 : UInt8) ≤ max 18 (normalScale t.facets) :=
      (le_max_octet _ _).1
    rw [Option.getD_none] at zero
    rw [zero] at room
    exact absurd room (by decide)

private theorem le_greatest_octet (a : UInt8) : a ≤ 255 :=
  UInt8.le_iff_toNat_le.mpr (Nat.le_of_lt_succ a.toNat_lt)

private theorem one_le_normalPrecision (t : ConceptualType) : 1 ≤ normalPrecision t.facets := by
  have positive := normalPrecision_ne_zero t
  rw [UInt8.le_iff_toNat_le]
  exact Nat.pos_of_ne_zero fun zero => positive (UInt8.toNat_inj.mp zero)

theorem normalLength_ne_zero (t : ConceptualType) :
    (normalLength t.facets.maxLengthValue?).value? ≠ some 0 := by
  have positive := t.applicable.maxLength_pos
  unfold normalLength
  cases length : t.facets.maxLengthValue? with
  | none => simp [Limit.value?]
  | some n =>
    dsimp only
    split
    · exact fun zero => positive (length.trans zero)
    · simp [Limit.value?]

theorem normalLength_value? (length : Option UInt32) :
    normalLength (normalLength length).value? = normalLength length := by
  cases length with
  | none => rfl
  | some n => by_cases fits : n ≤ 2147483647 <;> simp [normalLength, fits, Limit.value?]

/-- Filling in defaults twice changes nothing. -/
theorem normalFacets_idem (kind : Kind) (f : Facets) :
    normalFacets kind (normalFacets kind f) = normalFacets kind f := by
  cases kind with
  | decimal =>
    simp [normalFacets, normalPrecision, normalScale, Facets.precisionValue?, Facets.scaleValue?,
      Limit.value?]
  | string | binary => simp [normalFacets, Facets.maxLengthValue?, normalLength_value?]
  | dateTime => by_cases lost : f.preserveSeconds = some false <;> simp [normalFacets, lost]
  | _ => rfl

/-- A normal form is a type again. -/
theorem normalFacets_applicable (t : ConceptualType) :
    Applicable t.kind (normalFacets t.kind t.facets) := by
  have scale := normalScale_le_normalPrecision t
  have precision := normalPrecision_ne_zero t
  have length := normalLength_ne_zero t
  cases kind : t.kind <;> constructor <;>
    simp_all [normalFacets, Kind.isLengthBearing, Facets.maxLengthValue?, Facets.precisionValue?,
      Facets.scaleValue?, Limit.value?]

/-- The normal form of a type. -/
def normal (t : ConceptualType) : ConceptualType :=
  ⟨t.kind, normalFacets t.kind t.facets, normalFacets_applicable t⟩

end ConceptualType

/-- What it is for a store kind with some facets to hold a conceptual type: the catalog surfaces the
kind as the type's, the flags that the kind fixes are the ones that the type means, the facets are
admitted, and the normal form comes back from them and is held in the same way. -/
structure StoreKind.Holds (k : StoreKind) (f : Facets) (t : ConceptualType) : Prop where
  chosen : t.storage = .ok (k, f)
  kind : (Catalog.entryOf k).kind = t.kind
  unicode : ∀ r, (Catalog.entryOf k).unicode = some r → r.constant = true →
    r.default = t.facets.unicode.getD true
  fixedLength : ∀ r, (Catalog.entryOf k).fixedLength = some r → r.constant = true →
    r.default = t.facets.fixedLength.getD false
  preserveSeconds : ∀ r, (Catalog.entryOf k).preserveSeconds = some r → r.constant = true →
    r.default = t.facets.preserveSeconds.getD true
  admitted : (Catalog.entryOf k).Admits f
  nullable : f.nullable = none
  returned : k.conceptualType f = .ok t.normal
  again : t.normal.storage = .ok (k, f)

section Held
variable {k : StoreKind} {t : ConceptualType}
open ConceptualType

/-- A kind without facets of its own is held by a store kind without facets. -/
theorem holds_plain (entry : Catalog.entryOf k = Catalog.plain k t.kind)
    (bare : ∀ f, normalFacets t.kind f = {})
    (chosen : ∀ u : ConceptualType, u.kind = t.kind → u.storage = .ok (k, {}))
    (returned : k.conceptualType {} = .ok (.ofKind t.kind)) : k.Holds {} t where
  chosen := chosen t rfl
  kind := by rw [entry]; rfl
  unicode := by simp [entry, Catalog.plain]
  fixedLength := by simp [entry, Catalog.plain]
  preserveSeconds := by simp [entry, Catalog.plain]
  admitted := CatalogEntry.admits_nothing _
  nullable := rfl
  returned := by simp [returned, normal, ofKind, bare]
  again := chosen t.normal rfl

/-- The storage of decimals never refuses a scale: what is meant by a type always fits. -/
theorem decimalStorage_eq (t : ConceptualType) :
    t.decimalStorage = .ok (.extDecimal, normalFacets .decimal t.facets) := by
  have fits : ¬ normalPrecision t.facets < normalScale t.facets :=
    UInt8.not_lt.mpr (normalScale_le_normalPrecision t)
  exact if_neg fits

/-- A decimal is held by the extended decimals, with both of its numbers. -/
theorem holds_decimal (decimal : t.kind = .decimal) :
    StoreKind.extDecimal.Holds (normalFacets .decimal t.facets) t where
  chosen := by simp [storage, decimal, decimalStorage_eq]
  kind := decimal.symm
  unicode := by simp [Catalog.entryOf, Catalog.decimals]
  fixedLength := by simp [Catalog.entryOf, Catalog.decimals]
  preserveSeconds := by simp [Catalog.entryOf, Catalog.decimals]
  admitted := { CatalogEntry.admits_nothing _ with
    precision := RangeRule.admits_bounded rfl (one_le_normalPrecision t) (le_greatest_octet _)
    scale := RangeRule.admits_bounded rfl (UInt8.le_iff_toNat_le.mpr (Nat.zero_le _))
      (le_greatest_octet _) }
  nullable := rfl
  returned := by
    refine (make_eq_ok_iff _ _ _).mpr ⟨decimal, ?_⟩
    simp [normal, decimal, normalFacets]
  again := by simp [storage, normal, decimal, decimalStorage_eq, normalFacets_idem]

/-- A length of the catalog's general rule is kept as in the normal form. -/
theorem boundedLength_eq (entry : (Catalog.entryOf k).maxLength = some Catalog.anyLength)
    (f : Facets) : k.boundedLength f = .ok (normalLength f.maxLengthValue?) := by
  simp only [StoreKind.boundedLength, Catalog.builtin_require_name, bind, Except.bind,
    CatalogEntry.maxLengthLimit?, entry, Option.map_some]
  cases f.maxLengthValue? <;> rfl

/-- A normal length is one that the catalog's general rule admits. -/
theorem anyLength_admits (t : ConceptualType) :
    RangeRule.Admits (some Catalog.anyLength) (some (normalLength t.facets.maxLengthValue?)) := by
  have positive := t.applicable.maxLength_pos
  cases length : t.facets.maxLengthValue? with
  | none => exact RangeRule.admits_unbounded rfl
  | some n =>
    unfold normalLength
    dsimp only
    split
    · rename_i fits
      have least : (1 : UInt32) ≤ n := by
        rw [UInt32.le_iff_toNat_le]
        exact Nat.pos_of_ne_zero fun zero =>
          positive (length.trans (congrArg some (UInt32.toNat_inj.mp zero)))
      exact RangeRule.admits_bounded rfl least fits
    · exact RangeRule.admits_unbounded rfl

private theorem entryOf_ofText (unicode fixedLength : Bool) :
    Catalog.entryOf (.ofText unicode fixedLength) =
      Catalog.texts (.ofText unicode fixedLength) unicode fixedLength Catalog.anyLength := by
  cases unicode <;> cases fixedLength <;> rfl

private theorem conceptualType_ofText (unicode fixedLength : Bool) (f : Facets) :
    (StoreKind.ofText unicode fixedLength).conceptualType f =
      ConceptualType.string unicode fixedLength f.maxLengthValue? := by
  cases unicode <;> cases fixedLength <;> rfl

private theorem lengthLimit_value? (length : Limit UInt32) :
    lengthLimit length.value? = length := by
  cases length <;> rfl

/-- A text is held by the store kind of its two flags, with its length. -/
theorem holds_text (string : t.kind = .string) :
    (StoreKind.ofText (t.facets.unicode.getD true) (t.facets.fixedLength.getD false)).Holds
      { maxLength := some (normalLength t.facets.maxLengthValue?) } t := by
  generalize unicode : t.facets.unicode.getD true = u
  generalize fixed : t.facets.fixedLength.getD false = l
  have entry := entryOf_ofText u l
  exact {
    chosen := by
      unfold storage
      rw [string]
      dsimp only
      rw [unicode, fixed, boundedLength_eq (by rw [entry]; rfl)]
      rfl
    kind := by rw [entry]; exact string.symm
    unicode := by simp [entry, Catalog.texts, Catalog.always, unicode]
    fixedLength := by simp [entry, Catalog.texts, Catalog.always, fixed]
    preserveSeconds := by simp [entry, Catalog.texts]
    admitted := { CatalogEntry.admits_nothing _ with
      maxLength := by rw [entry]; exact anyLength_admits t }
    nullable := rfl
    returned := by
      rw [conceptualType_ofText]
      refine (make_eq_ok_iff _ _ _).mpr ⟨string, ?_⟩
      simp [normal, string, normalFacets, unicode, fixed, Facets.maxLengthValue?,
        lengthLimit_value?]
    again := by
      unfold storage
      simp only [normal, string, normalFacets, Option.getD_some]
      rw [unicode, fixed, boundedLength_eq (by rw [entry]; rfl)]
      simp only [Facets.maxLengthValue?, Option.bind_some, normalLength_value?]
      rfl }

/-- A blob is held by blobs, with its length and, where it is asked for, the fixed length. -/
theorem holds_blob (binary : t.kind = .binary) :
    StoreKind.blob.Holds
      { maxLength := some (normalLength t.facets.maxLengthValue?)
        fixedLength := if t.facets.fixedLength.getD false then some true else none } t := by
  generalize fixed : t.facets.fixedLength.getD false = l
  exact {
    chosen := by
      unfold storage
      rw [binary]
      dsimp only
      rw [fixed, boundedLength_eq rfl]
      rfl
    kind := binary.symm
    unicode := by simp [Catalog.entryOf, Catalog.blobs]
    fixedLength := by simp [Catalog.entryOf, Catalog.blobs]
    preserveSeconds := by simp [Catalog.entryOf, Catalog.blobs]
    admitted := { CatalogEntry.admits_nothing _ with
      maxLength := anyLength_admits t
      fixedLength := fun _ _ => ⟨_, rfl, rfl⟩ }
    nullable := rfl
    returned := by
      refine (make_eq_ok_iff _ _ _).mpr ⟨binary, ?_⟩
      cases l <;>
        simp [normal, binary, normalFacets, fixed, Facets.maxLengthValue?, lengthLimit_value?]
    again := by
      unfold storage
      simp only [normal, binary, normalFacets, Option.getD_some]
      rw [fixed, boundedLength_eq rfl]
      simp only [Facets.maxLengthValue?, Option.bind_some, normalLength_value?]
      rfl }

/-- A date/time is held by the store kind that keeps as much of it. -/
theorem holds_dateTime (dateTime : t.kind = .dateTime) :
    (if t.facets.preserveSeconds.getD true then StoreKind.dateTime else .smallDateTime).Holds
      {} t := by
  generalize kept : t.facets.preserveSeconds.getD true = p
  have lost : t.facets.preserveSeconds = some false ↔ p = false := by
    rw [← kept]
    cases t.facets.preserveSeconds <;> simp
  exact {
    chosen := by simp only [storage, dateTime, kept]
    kind := by cases p <;> exact dateTime.symm
    unicode := by cases p <;> simp [Catalog.entryOf, Catalog.moments]
    fixedLength := by cases p <;> simp [Catalog.entryOf, Catalog.moments]
    preserveSeconds := by cases p <;> simp [Catalog.entryOf, Catalog.moments, Catalog.always, kept]
    admitted := CatalogEntry.admits_nothing _
    nullable := rfl
    returned := by
      cases p <;>
        simp [StoreKind.conceptualType, ConceptualType.dateTime, normal, dateTime, normalFacets,
          lost]
    again := by cases p <;> simp [storage, normal, dateTime, normalFacets, lost] }

end Held

/-- Every storable type is held by some store kind. -/
theorem exists_holds (t : ConceptualType) (storable : t.kind.isStorable = true) :
    ∃ k f, StoreKind.Holds k f t := by
  have plain {k : StoreKind} {kind : Kind} (same : t.kind = kind)
      (entry : Catalog.entryOf k = Catalog.plain k kind)
      (bare : ∀ f, ConceptualType.normalFacets kind f = {})
      (chosen : ∀ u : ConceptualType, u.kind = kind → u.storage = .ok (k, {}))
      (returned : k.conceptualType {} = .ok (.ofKind kind)) : ∃ k f, StoreKind.Holds k f t := by
    subst same
    exact ⟨k, {}, holds_plain entry bare chosen returned⟩
  cases kind : t.kind with
  | boolean | byte | int16 | int32 | int64 | single | double | guid =>
    exact plain kind rfl (fun _ => rfl) (fun u same => by rw [ConceptualType.storage, same]) rfl
  | decimal => exact ⟨_, _, holds_decimal kind⟩
  | string => exact ⟨_, _, holds_text kind⟩
  | binary => exact ⟨_, _, holds_blob kind⟩
  | dateTime => exact ⟨_, _, holds_dateTime kind⟩
  | sByte | dateTimeOffset | time => rw [kind] at storable; cases storable

namespace StoreKind.Holds
variable {k : StoreKind} {f : Facets} {t : ConceptualType}

theorem storeType_eq (held : k.Holds f t) : t.storeType = .ok ⟨k.name, f⟩ := by
  simp only [ConceptualType.storeType, held.chosen, bind, Except.bind]
  exact Catalog.builtin_usage_name held.admitted

theorem normal_storeType_eq (held : k.Holds f t) : t.normal.storeType = .ok ⟨k.name, f⟩ := by
  simp only [ConceptualType.storeType, held.again, bind, Except.bind]
  exact Catalog.builtin_usage_name held.admitted

theorem conceptualType_eq (held : k.Holds f t) :
    (⟨k.name, f⟩ : StoreType).conceptualType = .ok t.normal :=
  (StoreType.conceptualType_of_isNamed (StoreType.isNamed_name k f)).trans held.returned

end StoreKind.Holds

namespace ConceptualType

/-- To the store and back, a storable type becomes its normal form, which has the same store type;
and two storable types have one store type exactly when they have one normal form. -/
theorem storeType_normalizes (t : ConceptualType) (storable : t.kind.isStorable = true) :
    (∃ s, t.storeType = .ok s ∧ s.conceptualType = .ok t.normal ∧ t.normal.storeType = .ok s) ∧
      ∀ u : ConceptualType, u.kind.isStorable = true →
        (t.storeType = u.storeType ↔ t.normal = u.normal) := by
  obtain ⟨k, f, held⟩ := exists_holds t storable
  refine ⟨⟨_, held.storeType_eq, held.conceptualType_eq, held.normal_storeType_eq⟩, ?_⟩
  intro u storable
  obtain ⟨k', f', held'⟩ := exists_holds u storable
  constructor
  · intro same
    have stored : (⟨k.name, f⟩ : StoreType) = ⟨k'.name, f'⟩ :=
      Except.ok.inj (held.storeType_eq.symm.trans (same.trans held'.storeType_eq))
    have returned := held.conceptualType_eq
    rw [stored, held'.conceptualType_eq] at returned
    exact (Except.ok.inj returned).symm
  · intro same
    calc t.storeType = t.normal.storeType :=
          held.storeType_eq.trans held.normal_storeType_eq.symm
      _ = u.normal.storeType := by rw [same]
      _ = u.storeType := held'.normal_storeType_eq.trans held'.storeType_eq.symm

/-- A decimal that states its scale alone gets a precision that has room for it. -/
theorem storeType_normalizes_wide_scale :
    let t : ConceptualType := ⟨.decimal, { scale := some (.bounded 20), nullable := some true },
      (Facets.fault?_eq_none_iff _ _).mp rfl⟩
    t.kind.isStorable = true ∧
      t.normal.facets = { precision := some (.bounded 20), scale := some (.bounded 20) } ∧
      ∃ s, t.storeType = .ok s ∧ s.conceptualType = .ok t.normal ∧ t.normal.storeType = .ok s := by
  intro t
  exact ⟨rfl, rfl, (storeType_normalizes t rfl).1⟩

end ConceptualType

/-- What a catalog entry has to be for a store type of its name to carry a conceptual type: of the
same primitive kind, with the fixed flags that the type means and room for the facets. -/
structure CatalogEntry.Carries (e : CatalogEntry) (s : StoreType) (t : ConceptualType) : Prop where
  name : s.name = e.name
  kind : e.kind = t.kind
  unicode : ∀ r, e.unicode = some r → r.constant = true →
    r.default = t.facets.unicode.getD true
  fixedLength : ∀ r, e.fixedLength = some r → r.constant = true →
    r.default = t.facets.fixedLength.getD false
  preserveSeconds : ∀ r, e.preserveSeconds = some r → r.constant = true →
    r.default = t.facets.preserveSeconds.getD true
  admitted : e.Admits s.facets
  nullable : s.facets.nullable = none

theorem StoreKind.Holds.carries {k : StoreKind} {f : Facets} {t : ConceptualType}
    (held : k.Holds f t) : (Catalog.entryOf k).Carries ⟨k.name, f⟩ t :=
  { held with name := (Catalog.entryOf_name k).symm }

namespace ConceptualType

/-- Every type of a storable kind has a store type, which an entry of the catalog carries and the
catalog returns as it is; the other kinds are unsupported. No decimal is refused for its scale. -/
theorem storeType_total (t : ConceptualType) :
    (if t.kind.isStorable then
      ∃ s, t.storeType = .ok s ∧ (∃ e ∈ Catalog.builtin.entries, e.Carries s t) ∧
        Catalog.builtin.usage s.name s.facets = .ok s
    else
      ∃ failure, t.storeType = .error failure ∧ failure.category = .unsupportedType) ∧
      ∃ stored, t.decimalStorage = .ok stored := by
  refine ⟨?_, _, decimalStorage_eq t⟩
  split
  · rename_i storable
    obtain ⟨k, f, held⟩ := exists_holds t storable
    exact ⟨_, held.storeType_eq, ⟨_, Catalog.entryOf_mem_builtin k, held.carries⟩,
      Catalog.builtin_usage_name held.admitted⟩
  · rename_i unstorable
    refine ⟨.noStoreType t.text t.kind, ?_, rfl⟩
    cases kind : t.kind <;> simp [kind, Kind.isStorable] at unstorable <;>
      simp [storeType, storage, kind, bind, Except.bind]

end ConceptualType
end StoreBridge
