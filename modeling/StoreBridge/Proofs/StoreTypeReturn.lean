import StoreBridge.Proofs.TypeMapping

/-! From the store and back. Whatever a store type stands for has a store type again, and that one
says what its store kind keeps: its spelling is the catalog's, decimals are of one kind and have
both of their numbers, XML is a text, and no facet is left but those that the kind looks at. What
has made the way once is not changed by it any more. -/
namespace StoreBridge
open Text

namespace StoreKind

/-- The store kind that comes back: all decimals are extended ones, and XML is a wide text. -/
def kept : StoreKind → StoreKind
  | .decimal => .extDecimal
  | .xml => .nVarChar
  | k => k

/-- The facets that come back. A length that the store cannot count is no bound, and decimals that
do not say both of their numbers have eighteen digits. -/
def keptFacets (k : StoreKind) (f : Facets) : Facets :=
  match k with
  | .decimal | .extDecimal =>
    let digits := f.digits?.getD (18, 0)
    { precision := some (.bounded digits.1), scale := some (.bounded digits.2) }
  | .varChar | .char | .nVarChar | .nChar =>
    { maxLength := some (ConceptualType.normalLength f.maxLengthValue?) }
  | .xml => { maxLength := some .unbounded }
  | .blob =>
    { maxLength := some (ConceptualType.normalLength f.maxLengthValue?)
      fixedLength := if f.fixedLength = some true then some true else none }
  | _ => {}

section Kept
open ConceptualType
variable {k : StoreKind} {f : Facets} {t : ConceptualType}

theorem maxLengthValue?_of_limit {length : Option UInt32}
    (stated : f.maxLength = some (lengthLimit length)) : f.maxLengthValue? = length := by
  rw [Facets.maxLengthValue?, stated]
  exact value?_lengthLimit length

/-- Decimals come back as extended ones with both of their numbers. -/
theorem holds_kept_decimal (made : extDecimal.conceptualType f = .ok t) :
    extDecimal.Holds (extDecimal.keptFacets f) t := by
  have kept : extDecimal.keptFacets f = normalFacets .decimal t.facets ∧ t.kind = .decimal := by
    rw [conceptualType_digits rfl] at made
    cases stated : f.digits? with
    | some both =>
      rw [stated] at made
      obtain ⟨kind, facets⟩ := decimal_eq_ok_iff.mp made
      simp only [keptFacets, stated, facets]
      exact ⟨rfl, kind⟩
    | none =>
      rw [stated] at made
      cases made
      simp only [keptFacets, stated]
      exact ⟨rfl, rfl⟩
  rw [kept.1]
  exact holds_decimal kept.2

/-- What a store kind makes of facets is held by the kind that it is kept as. -/
theorem holds_kept (made : k.conceptualType f = .ok t) : k.kept.Holds (k.keptFacets f) t := by
  cases k with
  | decimal | extDecimal => exact holds_kept_decimal made
  | varChar | char | nVarChar | nChar =>
    obtain ⟨kind, facets⟩ := string_eq_ok_iff.mp made
    have length := maxLengthValue?_of_limit (congrArg Facets.maxLength facets)
    have held := holds_text kind
    rw [length, facets] at held
    exact held
  | xml =>
    obtain ⟨kind, facets⟩ := string_eq_ok_iff.mp made
    have held := holds_text kind
    rw [facets] at held
    exact held
  | blob =>
    obtain ⟨kind, facets⟩ := binary_eq_ok_iff.mp made
    have length := maxLengthValue?_of_limit (congrArg Facets.maxLength facets)
    have fixed : t.facets.fixedLength.getD false = true ↔ f.fixedLength = some true := by
      rw [facets]
      cases f.fixedLength <;> simp
    have held := holds_blob kind
    simp only [length, fixed] at held
    exact held
  | dateTime =>
    cases made
    exact holds_dateTime (t := .dateTime none) rfl
  | smallDateTime =>
    cases made
    exact holds_dateTime (t := .dateTime (some false)) rfl
  | _ =>
    cases made
    refine holds_plain rfl (fun _ => rfl) (fun u same => ?_) rfl
    rw [storage, same]
    rfl

end Kept

end StoreKind

namespace StoreType

/-- What a store type stands for has a store type again, the one that its store kind keeps; and from
there the way leads back to it. -/
theorem conceptualType_returns {s : StoreType} {t : ConceptualType}
    (understood : s.conceptualType = .ok t) :
    ∃ k, s.IsNamed k ∧
      let kept : StoreType := ⟨k.kept.name, k.keptFacets s.facets⟩
      t.storeType = .ok kept ∧ ∃ u, kept.conceptualType = .ok u ∧ u.storeType = .ok kept := by
  obtain ⟨k, named, made⟩ := exists_isNamed understood
  have held := StoreKind.holds_kept made
  exact ⟨k, named, held.storeType_eq, t.normal, held.conceptualType_eq, held.normal_storeType_eq⟩

/-- A decimal that bounds its precision alone comes back with neither of its facets. -/
theorem conceptualType_returns_decimal :
    let s : StoreType := ⟨"\u2003DECIMAL ",
      { maxLength := some (.bounded 0), precision := some (.bounded 9), scale := some .unbounded
        unicode := some true, nullable := some false }⟩
    let kept : StoreType :=
      ⟨"extDecimal", { precision := some (.bounded 18), scale := some (.bounded 0) }⟩
    s.conceptualType = .ok .decimalDefault ∧ ConceptualType.decimalDefault.storeType = .ok kept ∧
      ∃ u, kept.conceptualType = .ok u ∧ u.storeType = .ok kept := by
  intro s kept
  have understood : s.conceptualType = .ok .decimalDefault := by decide +kernel
  obtain ⟨k, named, returned⟩ := conceptualType_returns understood
  have decimal : StoreKind.find? (trim s.name) = some .decimal := by decide +kernel
  cases (isNamed_iff.mp named).symm.trans decimal
  exact ⟨understood, returned⟩

end StoreType
end StoreBridge
