import StoreBridge.Mapping
import StoreBridge.Proofs.CatalogAdmission
import StoreBridge.Proofs.Deciding
import StoreBridge.Proofs.Trimming

/-! What store types stand for. A store type is known by its name, whatever the case and the blanks
around it, and a name has an entry in the catalog exactly when it is that of a store kind. A kind
looks at the facets that are its own: the length of texts and blobs, the fixed length of blobs, the
two numbers of decimals. These have to be usable, all others are ignored, and the rest of the
conceptual type is as the catalog has it. -/
namespace StoreBridge
open Text

theorem Limit.bind_value?_eq_some_iff {α : Type} {limit : Option (Limit α)} {v : α} :
    limit.bind Limit.value? = some v ↔ limit = some (.bounded v) := by
  cases limit with
  | none => simp
  | some limit => cases limit <;> simp [Limit.value?]

/-- A number that may be missing is not zero exactly if it is one at least where it is there. -/
theorem ne_some_zero_iff {α : Type} [LE α] [OfNat α 0] [OfNat α 1]
    (positive : ∀ v : α, 1 ≤ v ↔ v ≠ 0) {number : Option α} :
    number ≠ some 0 ↔ ∀ v, number = some v → 1 ≤ v := by
  simp only [positive]
  constructor
  · rintro someOther v rfl rfl
    exact someOther rfl
  · rintro someOther zero
    exact someOther 0 zero rfl

/-- The precision and the scale, if both are bounded. -/
def Facets.digits? (f : Facets) : Option (UInt8 × UInt8) :=
  match f.precisionValue?, f.scaleValue? with
  | some precision, some scale => some (precision, scale)
  | _, _ => none

namespace StoreKind

/-- Texts and blobs have a length to state, but for XML. -/
def hasLength : StoreKind → Bool
  | .varChar | .char | .nVarChar | .nChar | .blob => true
  | _ => false

/-- Decimals have two numbers to state. -/
def hasDigits : StoreKind → Bool
  | .decimal | .extDecimal => true
  | _ => false

/-- A bounded length has room for something, and of two bounded numbers the precision is at least
one, and the scale no more than that. -/
structure Usable (k : StoreKind) (f : Facets) : Prop where
  length : k.hasLength = true → ∀ n, f.maxLengthValue? = some n → 1 ≤ n
  digits : k.hasDigits = true → ∀ p s, f.digits? = some (p, s) → 1 ≤ p ∧ s ≤ p

/-- Two sets of facets are alike in those that a store kind looks at. A length may be stated as
unbounded or not be stated, and a decimal lacks both of its numbers where it lacks one. -/
structure Alike (k : StoreKind) (f g : Facets) : Prop where
  length : k.hasLength = true → f.maxLengthValue? = g.maxLengthValue?
  fixedLength : k = .blob → f.fixedLength.getD false = g.fixedLength.getD false
  digits : k.hasDigits = true → f.digits? = g.digits?

end StoreKind

/-- A conceptual type is what a catalog entry says: it is of the entry's kind, the flags that the
entry fixes are the ones that it means, and it does not say whether there may be null. -/
structure CatalogEntry.Surfaces (e : CatalogEntry) (t : ConceptualType) : Prop where
  kind : t.kind = e.kind
  unicode : ∀ r, e.unicode = some r → r.constant = true →
    t.facets.unicode.getD true = r.default
  fixedLength : ∀ r, e.fixedLength = some r → r.constant = true →
    t.facets.fixedLength.getD false = r.default
  preserveSeconds : ∀ r, e.preserveSeconds = some r → r.constant = true →
    t.facets.preserveSeconds.getD true = r.default
  nullable : t.facets.nullable = none

/-- Whatever stands against facets makes them an invalid argument. -/
theorem Facets.objections_category (kind : Kind) (f : Facets) :
    ∀ objection ∈ f.objections kind, objection.2.category = .invalidArgument := by
  simp [objections, Failure.category]

namespace ConceptualType

theorem make_decided (kind : Kind) (f : Facets) : DecidedBy (Applicable kind f) (make kind f) := by
  unfold make
  split
  · rename_i failure fault
    refine .unmet (fun applicable => ?_) ?_
    · rw [(Facets.fault?_eq_none_iff kind f).mpr applicable] at fault
      cases fault
    · obtain ⟨objection, found, rfl⟩ := Option.map_eq_some_iff.mp fault
      exact f.objections_category kind objection (List.mem_of_find?_eq_some found)
  · rename_i fault
    exact .met ((Facets.fault?_eq_none_iff kind f).mp fault) _

@[simp] theorem value?_lengthLimit (length : Option UInt32) :
    (lengthLimit length).value? = length := by
  cases length <;> rfl

section Made
variable {t : ConceptualType} {length : Option UInt32} {unicode fixedLength : Bool}

theorem string_eq_ok_iff : string unicode fixedLength length = .ok t ↔ t.kind = .string ∧
    t.facets =
      { maxLength := some (lengthLimit length)
        unicode := some unicode
        fixedLength := some fixedLength } :=
  make_eq_ok_iff ..

theorem binary_eq_ok_iff : binary fixedLength length = .ok t ↔ t.kind = .binary ∧
    t.facets = { maxLength := some (lengthLimit length), fixedLength := some fixedLength } :=
  make_eq_ok_iff ..

theorem decimal_eq_ok_iff {precision scale : UInt8} :
    decimal precision scale = .ok t ↔ t.kind = .decimal ∧
      t.facets = { precision := some (.bounded precision), scale := some (.bounded scale) } :=
  make_eq_ok_iff ..

end Made

/-- Where the flags are those of the kind, nothing but the length can be wrong. -/
theorem length_decided {kind : Kind} (bearing : kind.isLengthBearing = true)
    {unicode : Option Bool} (texts : unicode ≠ none → kind = .string) (fixedLength : Bool)
    (length : Option UInt32) :
    DecidedBy (∀ n, length = some n → 1 ≤ n) (make kind
      { maxLength := some (lengthLimit length)
        unicode := unicode
        fixedLength := some fixedLength }) := by
  rw [← ne_some_zero_iff (fun n : UInt32 => by grind)]
  refine (make_decided _ _).of_iff ⟨fun applicable => ?_, fun positive => ?_⟩
  · simpa [Facets.maxLengthValue?] using applicable.maxLength_pos
  · constructor <;> simp [bearing, Facets.maxLengthValue?, Facets.precisionValue?, positive]
    exact texts

theorem decimal_decided (precision scale : UInt8) :
    DecidedBy (1 ≤ precision ∧ scale ≤ precision) (decimal precision scale) := by
  have positive : precision ≠ 0 ↔ 1 ≤ precision := by grind
  refine (make_decided _ _).of_iff ⟨fun applicable => ⟨?_, ?_⟩, fun ⟨least, fits⟩ => ?_⟩
  · rw [← positive]
    simpa [Facets.precisionValue?, Limit.value?] using applicable.precision_pos
  · exact applicable.scale_le _ _ rfl rfl
  · constructor <;>
      simp [Facets.maxLengthValue?, Facets.precisionValue?, Facets.scaleValue?, Limit.value?,
        positive.mpr least, fits]

end ConceptualType

namespace StoreKind
open ConceptualType

theorem trim_name (k : StoreKind) : trim k.name = k.name := by
  cases k <;> decide +kernel

theorem lower_name_isEmpty (k : StoreKind) : (lower k.name).isEmpty = false := by
  cases k <;> decide +kernel

variable {k : StoreKind} {f g : Facets} {t : ConceptualType}

/-- Of a kind with a length nothing else can be wrong. -/
theorem usable_iff_length (bearing : k.hasLength = true) :
    (∀ n, f.maxLengthValue? = some n → 1 ≤ n) ↔ k.Usable f := by
  refine ⟨fun positive => ⟨fun _ => positive, fun decimal => ?_⟩, fun usable =>
    usable.length bearing⟩
  cases k with
  | varChar | char | nVarChar | nChar | blob => cases decimal
  | _ => cases bearing

/-- Decimals without both numbers have any number of digits. -/
theorem conceptualType_digits (decimal : k.hasDigits = true) (f : Facets) :
    k.conceptualType f = match f.digits? with
      | some (precision, scale) => ConceptualType.decimal precision scale
      | none => .ok decimalDefault := by
  unfold Facets.digits?
  cases k with
  | decimal | extDecimal =>
    unfold conceptualType
    cases f.precisionValue? <;> cases f.scaleValue? <;> rfl
  | _ => cases decimal

/-- A store kind takes exactly the facets that it can use. -/
theorem conceptualType_decided (k : StoreKind) (f : Facets) :
    DecidedBy (k.Usable f) (k.conceptualType f) := by
  cases k with
  | decimal | extDecimal =>
    rw [conceptualType_digits rfl]
    cases stated : f.digits? with
    | none => exact .met ⟨nofun, by simp [stated]⟩ _
    | some both =>
      refine (decimal_decided both.1 both.2).of_iff ⟨fun fits => ⟨nofun, ?_⟩, fun usable => ?_⟩
      · rintro - p s same
        cases stated.symm.trans same
        exact fits
      · exact usable.digits rfl _ _ stated
  | varChar | char | nVarChar | nChar =>
    exact (length_decided rfl (fun _ => rfl) _ _).of_iff (usable_iff_length rfl)
  | blob => exact (length_decided rfl (absurd rfl) _ _).of_iff (usable_iff_length rfl)
  | xml =>
    refine (length_decided rfl (fun _ => rfl) _ none).of_iff ?_
    exact ⟨fun _ => ⟨nofun, nofun⟩, fun _ => nofun⟩
  | _ => exact .met ⟨nofun, nofun⟩ _

/-- Facets that are alike come to the same. -/
theorem conceptualType_congr (alike : k.Alike f g) : k.conceptualType f = k.conceptualType g := by
  cases k with
  | decimal | extDecimal =>
    rw [conceptualType_digits rfl, conceptualType_digits rfl, alike.digits rfl]
  | varChar | char | nVarChar | nChar =>
    exact congrArg (ConceptualType.string _ _) (alike.length rfl)
  | blob => exact congrArg₂ binary (alike.fixedLength rfl) (alike.length rfl)
  | _ => rfl

/-- What a store kind makes of facets is what its entry in the catalog says. -/
theorem surfaces (made : k.conceptualType f = .ok t) : (Catalog.entryOf k).Surfaces t := by
  cases k with
  | varChar | char | nVarChar | nChar | xml =>
    obtain ⟨kind, facets⟩ := string_eq_ok_iff.mp made
    constructor <;> simp [Catalog.entryOf, Catalog.texts, Catalog.always, kind, facets]
  | blob =>
    obtain ⟨kind, facets⟩ := binary_eq_ok_iff.mp made
    constructor <;> simp [Catalog.entryOf, Catalog.blobs, kind, facets]
  | decimal | extDecimal =>
    rw [conceptualType_digits rfl] at made
    split at made
    · obtain ⟨kind, facets⟩ := decimal_eq_ok_iff.mp made
      constructor <;> simp [Catalog.entryOf, Catalog.decimals, kind, facets]
    · cases made
      constructor <;> simp [Catalog.entryOf, Catalog.decimals, decimalDefault]
  | dateTime | smallDateTime =>
    cases made
    constructor <;>
      simp [Catalog.entryOf, Catalog.moments, Catalog.always, ConceptualType.dateTime]
  | _ =>
    cases made
    constructor <;> simp [Catalog.entryOf, Catalog.plain, ofKind]

end StoreKind

namespace StoreType
variable {s s' : StoreType} {k : StoreKind}

/-- The name of a store type is that of a store kind, apart from case and from blanks at its ends.
-/
def IsNamed (s : StoreType) (k : StoreKind) : Prop :=
  sameName k.name (trim s.name) = true

/-- The four ends of looking for the conceptual type of a store type. -/
inductive Understood (s : StoreType) : Except Failure ConceptualType → Prop where
  | unnamed {failure : Failure} (blank : trim s.name = "")
      (invalid : failure.category = .invalidArgument) : Understood s (.error failure)
  | unknown {failure : Failure} (someName : trim s.name ≠ "") (noKind : ∀ k, ¬s.IsNamed k)
      (unlisted : Catalog.builtin.find? (trim s.name) = none)
      (unsupported : failure.category = .unsupportedType) : Understood s (.error failure)
  | unusable {k : StoreKind} {failure : Failure} (named : s.IsNamed k)
      (listed : Catalog.builtin.find? (trim s.name) = some (Catalog.entryOf k))
      (unusable : ¬k.Usable s.facets) (invalid : failure.category = .invalidArgument) :
      Understood s (.error failure)
  | known {k : StoreKind} {t : ConceptualType} (named : s.IsNamed k)
      (listed : Catalog.builtin.find? (trim s.name) = some (Catalog.entryOf k))
      (usable : k.Usable s.facets) (surfaces : (Catalog.entryOf k).Surfaces t) :
      Understood s (.ok t)

theorem isNamed_iff : s.IsNamed k ↔ StoreKind.find? (trim s.name) = some k := by
  rw [IsNamed, sameName_iff, StoreKind.find?_eq_some_iff]

/-- Every store kind's own spelling names it, and so does the spelling in small letters. -/
theorem isNamed_name (k : StoreKind) (f : Facets) : IsNamed ⟨k.name, f⟩ k := by
  rw [IsNamed, k.trim_name, sameName_refl]

theorem isNamed_lower_name (k : StoreKind) (f : Facets) : IsNamed ⟨lower k.name, f⟩ k := by
  rw [IsNamed, ← lower_trim, k.trim_name, sameName_iff, lower_lower]

/-- A name is looked up in small letters, which makes no difference. -/
theorem isNamed_iff_lower : s.IsNamed k ↔ StoreKind.find? (lower (trim s.name)) = some k := by
  rw [StoreKind.find?_congr (lower_lower _), isNamed_iff]

theorem conceptualType_of_isNamed (named : s.IsNamed k) :
    s.conceptualType = k.conceptualType s.facets := by
  have found := isNamed_iff_lower.mp named
  have someName : (lower (trim s.name)).isEmpty = false := by
    rw [← (sameName_iff _ _).mp named, k.lower_name_isEmpty]
  simp [conceptualType, found, someName]

theorem kind_missing (noKind : ∀ k, ¬s.IsNamed k) :
    StoreKind.find? (lower (trim s.name)) = none :=
  Option.eq_none_iff_forall_ne_some.mpr fun k found => noKind k (isNamed_iff_lower.mpr found)

/-- A store type without a name, or with a name that is no store kind's, stands for nothing. -/
theorem conceptualType_of_unknown (noKind : ∀ k, ¬s.IsNamed k) :
    s.conceptualType = .error (if trim s.name = "" then .emptyStoreTypeName
      else .unknownStoreType (lower (trim s.name))) := by
  by_cases blank : trim s.name = ""
  · rw [if_pos blank, conceptualType, blank]
    rfl
  · have someName : (lower (trim s.name)).isEmpty = false := by
      simpa [String.isEmpty_iff, lower_eq_empty_iff] using blank
    rw [if_neg blank]
    simp [conceptualType, kind_missing noKind, someName]

/-- What stands for something is named after a store kind, and it is the kind that makes it. -/
theorem exists_isNamed {t : ConceptualType} (understood : s.conceptualType = .ok t) :
    ∃ k, s.IsNamed k ∧ k.conceptualType s.facets = .ok t := by
  by_cases known : ∃ k, s.IsNamed k
  · obtain ⟨k, named⟩ := known
    exact ⟨k, named, (conceptualType_of_isNamed named).symm.trans understood⟩
  · rw [conceptualType_of_unknown (not_exists.mp known)] at understood
    cases understood

/-- A name finds the entry of its store kind in the catalog, and without a kind it finds none. -/
theorem find?_of_isNamed (named : s.IsNamed k) :
    Catalog.builtin.find? (trim s.name) = some (Catalog.entryOf k) := by
  rw [Catalog.builtin_find?_eq, isNamed_iff.mp named, Option.map_some]

theorem find?_of_unknown (noKind : ∀ k, ¬s.IsNamed k) :
    Catalog.builtin.find? (trim s.name) = none := by
  rw [Catalog.builtin_find?_eq, Option.map_eq_none_iff]
  exact Option.eq_none_iff_forall_ne_some.mpr fun k found => noKind k (isNamed_iff.mpr found)

/-- Neither the spelling of the name nor the facets that its kind does not look at make a
difference. -/
theorem conceptualType_respelt (respelt : Respelt s.name s'.name)
    (alike : ∀ k, s.IsNamed k → k.Alike s.facets s'.facets) :
    s'.conceptualType = s.conceptualType := by
  unfold conceptualType
  rw [respelt.lower_trim_eq]
  dsimp only
  split
  · rfl
  split
  · rfl
  · rename_i k found
    exact (StoreKind.conceptualType_congr (alike k (isNamed_iff_lower.mpr found))).symm

/-- Every store type comes to one of the four ends, and to the same one for each spelling of its
name and for all values of the facets that its kind does not look at. -/
theorem conceptualType_understood (s : StoreType) :
    s.Understood s.conceptualType ∧ ∀ s' : StoreType, Respelt s.name s'.name →
      (∀ k, s.IsNamed k → k.Alike s.facets s'.facets) → s'.conceptualType = s.conceptualType := by
  refine ⟨?_, fun s' => conceptualType_respelt⟩
  by_cases known : ∃ k, s.IsNamed k
  · obtain ⟨k, named⟩ := known
    have decided := k.conceptualType_decided s.facets
    rw [conceptualType_of_isNamed named]
    cases made : k.conceptualType s.facets with
    | ok t =>
      have usable := decided.isOk_iff.mp ⟨t, made⟩
      exact .known named (find?_of_isNamed named) usable (StoreKind.surfaces made)
    | error failure =>
      have unusable : ¬k.Usable s.facets := fun usable => by
        obtain ⟨t, taken⟩ := decided.isOk_iff.mpr usable
        cases made.symm.trans taken
      exact .unusable named (find?_of_isNamed named) unusable (decided.category made)
  · have noKind := not_exists.mp known
    rw [conceptualType_of_unknown noKind]
    by_cases blank : trim s.name = ""
    · rw [if_pos blank]
      exact .unnamed blank rfl
    · rw [if_neg blank]
      exact .unknown blank noKind (find?_of_unknown noKind) rfl

/-- A text in the store's own spelling, and the same one with blanks around it, in other letters and
with flags that its name denies. -/
theorem conceptualType_understood_padded :
    let s : StoreType := ⟨"varchar", { maxLength := some (.bounded 50) }⟩
    let s' : StoreType := ⟨"\u00a0VarChar\t",
      { maxLength := some (.bounded 50), unicode := some true, nullable := some true }⟩
    Respelt s.name s'.name ∧ (∀ k, s.IsNamed k → k.Alike s.facets s'.facets) ∧
      s.Understood s.conceptualType ∧ s'.conceptualType = s.conceptualType ∧
      ∃ t, s'.conceptualType = .ok t ∧ t.facets.unicode = some false := by
  intro s s'
  have respelt : Respelt s.name s'.name := by
    have written : s'.name = String.ofList (['\u00a0'] ++ "VarChar".toList ++ ['\t']) := by decide
    rw [written]
    exact .mk (by simp [Blanks]; decide) (by simp [Blanks]; decide) (by decide)
  have alike (k : StoreKind) (_ : s.IsNamed k) : k.Alike s.facets s'.facets :=
    ⟨fun _ => rfl, fun _ => rfl, fun _ => rfl⟩
  obtain ⟨understood, same⟩ := conceptualType_understood s
  have named : s.IsNamed .varChar := isNamed_name .varChar s.facets
  refine ⟨respelt, alike, understood, same s' respelt alike, ?_⟩
  rw [same s' respelt alike, conceptualType_of_isNamed named]
  exact ⟨_, rfl, rfl⟩

end StoreType
end StoreBridge
