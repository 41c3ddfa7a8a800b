import StoreBridge.Document.Toml
import StoreBridge.Proofs.FacetValue
import StoreBridge.Proofs.RecordReading
import StoreBridge.Proofs.StoreTypeMeaning

/-! The ways to come by a conceptual type. Some of them check what they put together and others do
not, some read it from a text and others take it from a store type, and a type can be made nullable
in the end. In each of them a kind is put together with facets, and there is a type exactly if the
kind can have every facet that is stated, within the bounds that lengths and digits have. Reading
and making types refuse nothing else. -/
namespace StoreBridge
open Document

/-- The kinds that can have a facet. -/
def FacetName.kinds : FacetName → List Kind
  | maxLength => [.string, .binary]
  | fixedLength => [.string, .binary]
  | unicode => [.string]
  | precision => [.decimal]
  | scale => [.decimal]
  | preserveSeconds => [.dateTime]
  | nullable => Kind.all

namespace Facets

/-- Facets that a kind can have: a bounded length and a bounded precision are at least one, and a
bounded scale is at most a bounded precision. -/
structure ValidFor (f : Facets) (kind : Kind) : Prop where
  suited : ∀ n : FacetName, f.get n ≠ none → kind ∈ n.kinds
  length : ∀ n, f.maxLength = some (.bounded n) → 1 ≤ n
  precision : ∀ p, f.precision = some (.bounded p) → 1 ≤ p
  scale : ∀ p s, f.precision = some (.bounded p) → f.scale = some (.bounded s) → s ≤ p

/-- Texts, with all three facets stated. -/
def ofText (unicode fixedLength : Bool) (length : Option UInt32) : Facets where
  maxLength := some (ConceptualType.lengthLimit length)
  unicode := some unicode
  fixedLength := some fixedLength

/-- Blobs, with both facets stated. -/
def ofBlob (fixedLength : Bool) (length : Option UInt32) : Facets where
  maxLength := some (ConceptualType.lengthLimit length)
  fixedLength := some fixedLength

/-- Decimals, with as many digits as are given, or any number of them. -/
def ofDigits : Option (UInt8 × UInt8) → Facets
  | some (precision, scale) =>
    { precision := some (.bounded precision), scale := some (.bounded scale) }
  | none => { precision := some .unbounded, scale := some .unbounded }

variable {f : Facets} {kind : Kind}

theorem least_iff {α : Type} [LE α] [OfNat α 0] [OfNat α 1] (positive : ∀ v : α, 1 ≤ v ↔ v ≠ 0)
    (limit : Option (Limit α)) :
    (∀ v, limit = some (.bounded v) → 1 ≤ v) ↔ limit.bind Limit.value? ≠ some 0 := by
  simp only [ne_some_zero_iff positive, Limit.bind_value?_eq_some_iff]

/-- Valid facets are those that nothing is said against when a type is made of them. -/
theorem validFor_iff : f.ValidFor kind ↔ Applicable kind f := by
  have length := least_iff (fun v : UInt32 => by grind) f.maxLength
  have precision := least_iff (fun v : UInt8 => by grind) f.precision
  have bearing : kind ∈ [Kind.string, .binary] ↔ kind.isLengthBearing = true := by
    cases kind <;> decide
  constructor
  · intro valid
    refine
      { maxLength := fun stated => bearing.mp (valid.suited .maxLength stated)
        fixedLength := fun stated => bearing.mp (valid.suited .fixedLength stated)
        unicode := fun stated => List.mem_singleton.mp (valid.suited .unicode stated)
        precision := fun stated => List.mem_singleton.mp (valid.suited .precision stated)
        scale := fun stated => List.mem_singleton.mp (valid.suited .scale stated)
        preserveSeconds := fun stated =>
          List.mem_singleton.mp (valid.suited .preserveSeconds stated)
        maxLength_pos := length.mp valid.length
        precision_pos := precision.mp valid.precision
        scale_le := fun p s precise scaled => ?_ }
    exact valid.scale p s (Limit.bind_value?_eq_some_iff.mp precise)
      (Limit.bind_value?_eq_some_iff.mp scaled)
  · intro applies
    refine
      { suited := fun n stated => ?_
        length := length.mpr applies.maxLength_pos
        precision := precision.mpr applies.precision_pos
        scale := fun p s precise scaled => ?_ }
    · cases n with
      | maxLength => exact bearing.mpr (applies.maxLength stated)
      | fixedLength => exact bearing.mpr (applies.fixedLength stated)
      | unicode => exact List.mem_singleton.mpr (applies.unicode stated)
      | precision => exact List.mem_singleton.mpr (applies.precision stated)
      | scale => exact List.mem_singleton.mpr (applies.scale stated)
      | preserveSeconds => exact List.mem_singleton.mpr (applies.preserveSeconds stated)
      | nullable => exact kind.mem_all
    · exact applies.scale_le p s (Limit.bind_value?_eq_some_iff.mpr precise)
        (Limit.bind_value?_eq_some_iff.mpr scaled)

end Facets

/-- The facets that a store kind asks for, of those that it is used with. -/
def StoreKind.asks (k : StoreKind) (f : Facets) : Facets :=
  match k with
  | .decimal | .extDecimal => .ofDigits f.digits?
  | .smallDateTime => { preserveSeconds := some false }
  | .varChar => .ofText false false f.maxLengthValue?
  | .char => .ofText false true f.maxLengthValue?
  | .nVarChar => .ofText true false f.maxLengthValue?
  | .nChar => .ofText true true f.maxLengthValue?
  | .xml => .ofText true false none
  | .blob => .ofBlob (f.fixedLength.getD false) f.maxLengthValue?
  | _ => {}

/-- The ways to come by a conceptual type. -/
inductive Origin where
  | new (kind : Kind) (f : Facets)
  | ofKind (kind : Kind)
  | string (unicode fixedLength : Bool) (length : Option UInt32)
  | binary (fixedLength : Bool) (length : Option UInt32)
  | decimal (precision scale : UInt8)
  | decimalDefault
  | dateTime (preserveSeconds : Option Bool)
  /-- A part of some larger document. -/
  | record (tolerance : Tolerance) (d : Document)
  | json (written : String)
  | toml (written : String)
  | storeType (s : StoreType)
  | withNullable (o : Origin) (nullable : Bool)

namespace Origin

/-- The type that is come by. -/
def type? : Origin → Option ConceptualType
  | new kind f => (ConceptualType.make kind f).toOption
  | ofKind kind => some (.ofKind kind)
  | string unicode fixedLength length =>
    (ConceptualType.string unicode fixedLength length).toOption
  | binary fixedLength length => (ConceptualType.binary fixedLength length).toOption
  | decimal precision scale => (ConceptualType.decimal precision scale).toOption
  | decimalDefault => some .decimalDefault
  | dateTime preserveSeconds => some (.dateTime preserveSeconds)
  | record tolerance d => ConceptualType.ofDocument? tolerance d
  | json written => (Json.read? written).bind (ConceptualType.ofDocument? .strict)
  | toml written => (Toml.read? written).bind (ConceptualType.ofDocument? .tolerant)
  | storeType s => s.conceptualType.toOption
  | withNullable o nullable => o.type?.map (·.withNullable nullable)

/-- The kind and the facets that are put together on the way, whether or not they make a type. -/
def asked? : Origin → Option (Kind × Facets)
  | new kind f => some (kind, f)
  | ofKind kind => some (kind, {})
  | string unicode fixedLength length => some (.string, .ofText unicode fixedLength length)
  | binary fixedLength length => some (.binary, .ofBlob fixedLength length)
  | decimal precision scale => some (.decimal, .ofDigits (some (precision, scale)))
  | decimalDefault => some (.decimal, .ofDigits none)
  | dateTime preserveSeconds => some (.dateTime, { preserveSeconds })
  | record tolerance d => ConceptualType.stated? tolerance d
  | json written => (Json.read? written).bind (ConceptualType.stated? .strict)
  | toml written => (Toml.read? written).bind (ConceptualType.stated? .tolerant)
  | storeType s => (StoreKind.find? (Text.lower (Text.trim s.name))).map fun k =>
    ((Catalog.entryOf k).kind, k.asks s.facets)
  | withNullable o nullable => o.asked?.map fun (kind, f) => (kind, f.put .nullable nullable)

end Origin

namespace ConceptualType
variable {kind : Kind} {f : Facets} {t : ConceptualType}

theorem toOption_make_eq_some_iff :
    (make kind f).toOption = some t ↔ t.kind = kind ∧ t.facets = f := by
  rw [← make_eq_ok_iff]
  cases make kind f <;> simp [Except.toOption]

/-- A type is what is made of its own kind and facets. -/
theorem toOption_make_self (t : ConceptualType) : (make t.kind t.facets).toOption = some t :=
  toOption_make_eq_some_iff.mpr ⟨rfl, rfl⟩

/-- Making a type of a kind and facets is possible exactly if these are valid. -/
theorem make_eq_none_iff : (make kind f).toOption = none ↔ ¬f.ValidFor kind := by
  rw [Option.eq_none_iff_forall_ne_some, Facets.validFor_iff]
  constructor
  · intro none applies
    exact none ⟨kind, f, applies⟩ (toOption_make_eq_some_iff.mpr ⟨rfl, rfl⟩)
  · rintro unsuited t made
    obtain ⟨rfl, rfl⟩ := toOption_make_eq_some_iff.mp made
    exact unsuited t.applicable

theorem validFor_put_nullable (nullable : Bool) :
    (f.put .nullable nullable).ValidFor kind ↔ f.ValidFor kind := by
  rw [Facets.validFor_iff, Facets.validFor_iff]
  exact ⟨fun applies => applies.withNullable f.nullable, fun applies => applies.withNullable _⟩

/-- Whether a type is nullable can be asked for beforehand. -/
theorem toOption_make_nullable (kind : Kind) (f : Facets) (nullable : Bool) :
    (make kind f).toOption.map (·.withNullable nullable) =
      (make kind (f.put .nullable nullable)).toOption := by
  cases made : (make kind f).toOption with
  | none =>
    rw [make_eq_none_iff, ← validFor_put_nullable nullable, ← make_eq_none_iff] at made
    rw [made]
    rfl
  | some t =>
    obtain ⟨rfl, rfl⟩ := toOption_make_eq_some_iff.mp made
    exact (toOption_make_self (t.withNullable nullable)).symm

end ConceptualType

/-- A store kind makes a type of what it asks for. -/
theorem StoreKind.toOption_conceptualType (k : StoreKind) (f : Facets) :
    (k.conceptualType f).toOption =
      (ConceptualType.make (Catalog.entryOf k).kind (k.asks f)).toOption := by
  cases k with
  | decimal | extDecimal =>
    rw [conceptualType_digits rfl]
    unfold asks
    cases f.digits? with
    | none => exact (ConceptualType.toOption_make_self .decimalDefault).symm
    | some both => rfl
  | dateTime => exact (ConceptualType.toOption_make_self (.dateTime none)).symm
  | smallDateTime => exact (ConceptualType.toOption_make_self (.dateTime (some false))).symm
  | varChar | char | nVarChar | nChar | xml | blob => rfl
  | _ => exact (ConceptualType.toOption_make_self (.ofKind _)).symm

namespace Origin
open ConceptualType
variable {o : Origin} {kind : Kind} {f : Facets} {t : ConceptualType}

/-- Each way makes a type of what it asks for. -/
theorem type?_eq (o : Origin) :
    o.type? = o.asked?.bind fun asked => (make asked.1 asked.2).toOption := by
  induction o with
  | new | string | binary | decimal => rfl
  | ofKind kind => exact (toOption_make_self (.ofKind kind)).symm
  | decimalDefault => exact (toOption_make_self .decimalDefault).symm
  | dateTime preserveSeconds => exact (toOption_make_self (.dateTime preserveSeconds)).symm
  | record tolerance d => exact ofDocument?_eq tolerance d
  | json | toml => simp only [type?, asked?, Option.bind_assoc, ofDocument?_eq]
  | storeType s =>
    by_cases known : ∃ k, s.IsNamed k
    · obtain ⟨k, named⟩ := known
      have found := StoreType.isNamed_iff_lower.mp named
      simp only [type?, asked?, StoreType.conceptualType_of_isNamed named, found, Option.map_some,
        Option.bind_some, StoreKind.toOption_conceptualType]
    · have noKind := not_exists.mp known
      simp only [type?, asked?, StoreType.conceptualType_of_unknown noKind,
        StoreType.kind_missing noKind]
      rfl
  | withNullable o nullable ih =>
    rw [type?, asked?, ih]
    cases o.asked? with
    | none => rfl
    | some asked => exact toOption_make_nullable asked.1 asked.2 nullable

theorem exists_type?_iff : (∃ t, o.type? = some t ∧ t.kind = kind ∧ t.facets = f) ↔
    o.asked? = some (kind, f) ∧ f.ValidFor kind := by
  rw [type?_eq]
  constructor
  · rintro ⟨t, made, rfl, rfl⟩
    obtain ⟨⟨_, _⟩, asked, made⟩ := Option.bind_eq_some_iff.mp made
    obtain ⟨rfl, rfl⟩ := toOption_make_eq_some_iff.mp made
    exact ⟨asked, Facets.validFor_iff.mpr t.applicable⟩
  · rintro ⟨asked, valid⟩
    refine ⟨⟨kind, f, Facets.validFor_iff.mp valid⟩, ?_, rfl, rfl⟩
    rw [asked]
    exact toOption_make_eq_some_iff.mpr ⟨rfl, rfl⟩

/-- A record of any kind and facets states them, and its text in JSON does, too. -/
theorem asked?_json {write : Document → String} (json : write = Json.compact ∨ write = Json.pretty)
    (kind : Kind) (f : Facets) :
    (Origin.json (write (ConceptualType.record kind f))).asked? = some (kind, f) := by
  rw [asked?, Json.read?_written json (plain_record kind f)]
  exact stated?_record .strict kind f

/-- The facets of every type are valid for its kind, whatever the way to come by it, and a way leads
to a type exactly if it asks for valid facets, which are then those of the type. Making a type
refuses all others as an invalid argument. Nothing is refused for want of a way to state it: every
kind with any facets has a record, read strictly or not, and texts in JSON. -/
theorem leads_to_valid :
    (∀ (o : Origin) (t : ConceptualType), o.type? = some t → t.facets.ValidFor t.kind) ∧
      (∀ (o : Origin) (kind : Kind) (f : Facets),
        (∃ t, o.type? = some t ∧ t.kind = kind ∧ t.facets = f) ↔
          o.asked? = some (kind, f) ∧ f.ValidFor kind) ∧
      (∀ (kind : Kind) (f : Facets), DecidedBy (f.ValidFor kind) (make kind f)) ∧
      ∀ (kind : Kind) (f : Facets),
        (∀ tolerance, (record tolerance (ConceptualType.record kind f)).asked? = some (kind, f)) ∧
          (json (Json.compact (ConceptualType.record kind f))).asked? = some (kind, f) ∧
          (json (Json.pretty (ConceptualType.record kind f))).asked? = some (kind, f) := by
  refine ⟨fun o t made => ?_, fun _ _ _ => exists_type?_iff, fun kind f => ?_, fun kind f => ?_⟩
  · obtain ⟨-, valid⟩ := exists_type?_iff.mp ⟨t, made, rfl, rfl⟩
    exact valid
  · exact (make_decided kind f).of_iff Facets.validFor_iff.symm
  · exact ⟨fun tolerance => stated?_record tolerance kind f, asked?_json (.inl rfl) kind f,
      asked?_json (.inr rfl) kind f⟩

/-- A text with a length, from a store type that also has a scale, which is not asked for, and made
not nullable in the end. -/
theorem leads_to_valid_nullable :
    let s : StoreType :=
      ⟨"\tNVarChar ", { maxLength := some (.bounded 40), scale := some .unbounded }⟩
    let o : Origin := withNullable (storeType s) false
    ∃ t, o.type? = some t ∧ t.kind = .string ∧
      t.facets = (Facets.ofText true false (some 40)).put .nullable false ∧
      t.facets.ValidFor t.kind := by
  intro s o
  have asked : o.asked? =
      some (.string, (Facets.ofText true false (some 40)).put .nullable false) := by
    decide +kernel
  obtain ⟨t, made⟩ : ∃ t, o.type? = some t := Option.isSome_iff_exists.mp (by decide +kernel)
  obtain ⟨valid, exactly, -⟩ := leads_to_valid
  obtain ⟨same, -⟩ := (exactly o t.kind t.facets).mp ⟨t, made, rfl, rfl⟩
  obtain ⟨kind, facets⟩ := Prod.mk.inj (Option.some.inj (asked.symm.trans same))
  exact ⟨t, made, kind.symm, facets.symm, valid o t made⟩

/-- A length is asked for that the kind cannot have, and the text is refused. -/
example :
    let o : Origin := toml "kind = 'Int32'\nfacets = \x7b max_length = 50 \x7d"
    o.asked? = some (.int32, { maxLength := some (.bounded 50) }) ∧ o.type? = none := by
  decide +kernel

end Origin
end StoreBridge
