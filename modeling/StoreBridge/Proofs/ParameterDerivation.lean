import StoreBridge.Proofs.CompileOutcome
import StoreBridge.Proofs.TypeMapping

/-! Parameters beside the store types of what they carry. What a conceptual type makes of a
parameter and what it makes of a store type is settled apart, with defaults of their own on either
side. For texts and blobs the two agree: the type of the parameter goes with the name of the store
type, and a parameter that only passes a value in has the length of the store type for its size,
exactly unless the store cannot count that far. What passes values back has room for any. -/
namespace StoreBridge

/-- The store kind that a parameter of a text or a blob goes with. -/
def DbType.storeKind? : DbType → Option StoreKind
  | ansiString => some .varChar
  | ansiStringFixedLength => some .char
  | string => some .nVarChar
  | stringFixedLength => some .nChar
  | binary => some .blob
  | _ => none

/-- The type of a text's parameter goes with the store kind of the same two flags. -/
theorem DbType.storeKind?_ofText (unicode fixedLength : Bool) :
    (ofText unicode fixedLength).storeKind? = some (.ofText unicode fixedLength) := by
  cases unicode <;> cases fixedLength <;> rfl

theorem Facets.maxLengthValue?_eq_some_iff {f : Facets} {n : UInt32} :
    f.maxLengthValue? = some n ↔ f.maxLength = some (.bounded n) :=
  Limit.bind_value?_eq_some_iff

namespace ConceptualType

/-- Texts and blobs are what has a length. -/
def HasLength (t : ConceptualType) : Prop :=
  t.kind = .string ∨ t.kind = .binary

/-- The type states a length that the store cannot count. -/
def IsTooLong (t : ConceptualType) : Prop :=
  ∃ n, t.facets.maxLength = some (.bounded n) ∧ 2147483647 < n

theorem hasLength_iff (t : ConceptualType) : t.HasLength ↔ t.kind.isLengthBearing = true := by
  unfold HasLength
  cases t.kind <;> simp [Kind.isLengthBearing]

/-- The store keeps the stated length, or the lack of one, unless it cannot count that far. -/
theorem normalLength_eq_iff (t : ConceptualType) :
    normalLength t.facets.maxLengthValue? = lengthLimit t.facets.maxLengthValue? ↔
      ¬t.IsTooLong := by
  unfold IsTooLong
  simp only [← Facets.maxLengthValue?_eq_some_iff]
  cases t.facets.maxLengthValue? with
  | none => simp [normalLength, lengthLimit]
  | some n => by_cases counted : n ≤ 2147483647 <;> simp [normalLength, lengthLimit, counted]

end ConceptualType

namespace Parameter
open ConceptualType

/-- What a conceptual type and a direction make of a parameter, whatever its name and its value. -/
structure Follows (t : ConceptualType) (d : Direction) (p : Parameter) : Prop where
  direction : p.direction = d
  /-- What passes values back may be null, and what does not is as nullable as its type. -/
  nullable : p.isNullable = if d = .input then t.facets.nullable.getD true else true
  /-- Only texts and blobs have a size. -/
  unsized : ¬t.HasLength → p.size = none
  /-- A bound is the size in every direction. -/
  bounded : t.HasLength → ∀ n, t.facets.maxLength = some (.bounded n) → p.size = some n
  /-- Without a bound only what passes values back has a size, the greatest. -/
  unbounded : t.HasLength → (∀ n, t.facets.maxLength ≠ some (.bounded n)) →
    p.size = if d = .input then none else some 2147483647

/-- A parameter suits the store type of what it carries: its type goes with the name of the store
type; and if it only passes a value in, it has the store type's length, or none as that has no
bound, exactly unless the length is more than the store can count. -/
structure Suits (p : Parameter) (t : ConceptualType) (s : StoreType) : Prop where
  stored : t.storeType = .ok s
  named : p.dbType.storeKind?.map StoreKind.name = some s.name
  length : p.direction = .input →
    (s.facets.maxLength = some (lengthLimit p.size) ↔ ¬t.IsTooLong)

section Derived
variable {t : ConceptualType} (name : String) (d : Direction) (value : Value)

/-- The size of texts and blobs. -/
theorem derived_size (length : t.HasLength) :
    (derived name t d value).size = t.lengthSize (d != .input) :=
  if_pos ((hasLength_iff t).mp length)

theorem derived_size_input (length : t.HasLength) :
    (derived name t .input value).size = t.facets.maxLengthValue? := by
  rw [derived_size name .input value length, lengthSize]
  cases t.facets.maxLengthValue? <;> rfl

theorem derived_follows : (derived name t d value).Follows t d where
  direction := rfl
  nullable := by cases d <;> rfl
  unsized := fun none => if_neg (mt (hasLength_iff t).mpr none)
  bounded := by
    intro length n stated
    rw [derived_size name d value length, lengthSize,
      Facets.maxLengthValue?_eq_some_iff.mpr stated]
  unbounded := by
    intro length unstated
    have unbounded : t.facets.maxLengthValue? = none :=
      Option.eq_none_iff_forall_ne_some.mpr fun n =>
        mt Facets.maxLengthValue?_eq_some_iff.mp (unstated n)
    rw [derived_size name d value length, lengthSize, unbounded]
    cases d <;> rfl

/-- A store kind that the parameter's type goes with, and that keeps the length, suits it. -/
theorem derived_suits {k : StoreKind} {f : Facets} (length : t.HasLength) (held : k.Holds f t)
    (goes : t.dbType.storeKind? = some k)
    (kept : f.maxLength = some (normalLength t.facets.maxLengthValue?)) :
    (derived name t d value).Suits t ⟨k.name, f⟩ where
  stored := held.storeType_eq
  named := by
    show t.dbType.storeKind?.map StoreKind.name = _
    rw [goes, Option.map_some]
  length := by
    intro input
    replace input : d = .input := input
    subst input
    rw [kept, derived_size_input name value length, Option.some_inj]
    exact normalLength_eq_iff t

theorem exists_suits (length : t.HasLength) : ∃ s, (derived name t d value).Suits t s := by
  cases length with
  | inl string =>
    refine ⟨_, derived_suits name d value (.inl string) (holds_text string) ?_ rfl⟩
    rw [ConceptualType.dbType, string]
    exact DbType.storeKind?_ofText ..
  | inr binary =>
    refine ⟨_, derived_suits name d value (.inr binary) (holds_blob binary) ?_ rfl⟩
    rw [ConceptualType.dbType, binary]
    rfl

end Derived

/-- A name is all that a parameter needs to be made. It follows its type and its direction, and that
of a text or a blob suits the store type of what it carries. -/
theorem create_follows {name : String} (isName : Parameter.isName name.toList = true)
    (t : ConceptualType) (d : Direction) (value : Value) :
    ∃ p, create name t d value = .ok p ∧ p.name = name ∧ p.value = value ∧ p.Follows t d ∧
      (t.HasLength → ∃ s, p.Suits t s) := by
  refine ⟨derived name t d value, ?_, rfl, rfl, derived_follows name d value,
    exists_suits name d value⟩
  rw [create, CommandTree.checkName_of_isName isName]
  rfl

/-- A length that is one more than the store can count is the parameter's size, and the store type
is unbounded. -/
theorem create_follows_too_long :
    let t : ConceptualType :=
      ⟨.string, { maxLength := some (.bounded 2147483648), fixedLength := some true },
        (Facets.fault?_eq_none_iff _ _).mp rfl⟩
    isName "_p1".toList = true ∧ t.IsTooLong ∧ ∃ p s, create "_p1" t .input .null = .ok p ∧
      p.isNullable = true ∧ p.size = some 2147483648 ∧ p.Suits t s ∧ s.name = "nchar" ∧
        s.facets.maxLength = some .unbounded := by
  intro t
  have isName : isName "_p1".toList = true := by decide
  have tooLong : t.IsTooLong := ⟨2147483648, rfl, by decide⟩
  obtain ⟨p, created, -, -, follows, suits⟩ := create_follows isName t .input .null
  obtain ⟨s, suits⟩ := suits (.inl rfl)
  have stored : t.storeType = .ok ⟨"nchar", { maxLength := some .unbounded }⟩ := by decide +kernel
  cases suits.stored.symm.trans stored
  exact ⟨isName, tooLong, p, _, created, follows.nullable, follows.bounded (.inl rfl) _ rfl, suits,
    rfl, rfl⟩

end Parameter
end StoreBridge
