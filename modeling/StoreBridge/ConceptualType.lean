import StoreBridge.Facets
import StoreBridge.Failure

/-! Conceptual types: a primitive kind together with facets that apply to it. Which facets apply,
and within which bounds, is a property of the pair, and every conceptual type has it: a type is made
from a kind and facets exactly when they have the property, and otherwise the first reason against
them is reported. -/
namespace StoreBridge
open Text

/-- The kind that a text names. -/
def Kind.read (s : String) : Except Failure Kind :=
  match Kind.find? s with
  | some k => .ok k
  | none => .error (.unknownKind s)

/-- The facets apply to the kind: length facets to texts and blobs, `Unicode` to texts, digits to
decimals, seconds to date/times; a length and a precision are at least one, and a scale is at most
the precision. -/
structure Applicable (kind : Kind) (f : Facets) : Prop where
  maxLength : f.maxLength ≠ none → kind.isLengthBearing = true
  fixedLength : f.fixedLength ≠ none → kind.isLengthBearing = true
  unicode : f.unicode ≠ none → kind = .string
  precision : f.precision ≠ none → kind = .decimal
  scale : f.scale ≠ none → kind = .decimal
  preserveSeconds : f.preserveSeconds ≠ none → kind = .dateTime
  maxLength_pos : f.maxLengthValue? ≠ some 0
  precision_pos : f.precisionValue? ≠ some 0
  scale_le : ∀ p s, f.precisionValue? = some p → f.scaleValue? = some s → s ≤ p

namespace Facets

/-- The scale and the precision are both bounded, and the scale is the greater one. -/
def scaleExceeds (f : Facets) : Bool :=
  match f.precisionValue?, f.scaleValue? with
  | some p, some s => decide (p < s)
  | _, _ => false

/-- What may stand against facets of a kind, each with the failure it would be. -/
def objections (kind : Kind) (f : Facets) : List (Bool × Failure) :=
  [(!kind.isLengthBearing && f.maxLength.isSome, .facetNotApplicable "MaxLength" kind),
    (!kind.isLengthBearing && f.fixedLength.isSome, .facetNotApplicable "FixedLength" kind),
    (kind != .string && f.unicode.isSome, .facetNotApplicable "Unicode" kind),
    (kind != .decimal && f.precision.isSome, .facetNotApplicable "Precision" kind),
    (kind != .decimal && f.scale.isSome, .facetNotApplicable "Scale" kind),
    (kind != .dateTime && f.preserveSeconds.isSome, .facetNotApplicable "PreserveSeconds" kind),
    (f.maxLengthValue? == some 0, .zeroMaxLength kind),
    (f.precisionValue? == some 0, .zeroPrecision),
    (f.scaleExceeds, .scaleExceedsPrecision (f.scaleValue?.getD 0).toNat
      (f.precisionValue?.getD 0).toNat)]

/-- The first objection that holds. -/
def fault? (kind : Kind) (f : Facets) : Option Failure :=
  ((f.objections kind).find? (·.1)).map (·.2)

theorem scaleExceeds_eq_false_iff (f : Facets) :
    f.scaleExceeds = false ↔
      ∀ p s, f.precisionValue? = some p → f.scaleValue? = some s → s ≤ p := by
  unfold scaleExceeds
  cases f.precisionValue? <;> cases f.scaleValue? <;> simp

private theorem stated_only_if {α : Type} (o : Option α) (b : Bool) :
    (!b && o.isSome) = false ↔ (o ≠ none → b = true) := by
  cases o <;> simp

private theorem stated_only_for {α : Type} (o : Option α) (a b : Kind) :
    (a != b && o.isSome) = false ↔ (o ≠ none → a = b) := by
  cases o <;> simp

/-- No objection holds exactly when the facets apply. -/
theorem fault?_eq_none_iff (kind : Kind) (f : Facets) :
    f.fault? kind = none ↔ Applicable kind f := by
  simp only [fault?, Option.map_eq_none_iff, List.find?_eq_none, objections, List.mem_cons,
    forall_eq_or_imp, List.not_mem_nil, false_implies, implies_true, and_true, Bool.not_eq_true,
    scaleExceeds_eq_false_iff, stated_only_if, stated_only_for, beq_eq_false_iff_ne]
  exact ⟨fun ⟨h1, h2, h3, h4, h5, h6, h7, h8, h9⟩ => ⟨h1, h2, h3, h4, h5, h6, h7, h8, h9⟩,
    fun ⟨h1, h2, h3, h4, h5, h6, h7, h8, h9⟩ => ⟨h1, h2, h3, h4, h5, h6, h7, h8, h9⟩⟩

end Facets

/-- Every kind may or may not be nullable. -/
theorem Applicable.withNullable {kind : Kind} {f : Facets} (h : Applicable kind f)
    (nullable : Option Bool) : Applicable kind { f with nullable := nullable } :=
  ⟨h.1, h.2, h.3, h.4, h.5, h.6, h.7, h.8, h.9⟩

/-- A conceptual type. -/
structure ConceptualType where
  kind : Kind
  facets : Facets
  applicable : Applicable kind facets
deriving DecidableEq

namespace ConceptualType

/-- The type with this kind and these facets, or the first objection to them. -/
def make (kind : Kind) (f : Facets) : Except Failure ConceptualType :=
  match h : f.fault? kind with
  | some failure => .error failure
  | none => .ok ⟨kind, f, (f.fault?_eq_none_iff kind).1 h⟩

/-- A kind without facets. -/
def ofKind (kind : Kind) : ConceptualType :=
  ⟨kind, {}, by constructor <;> simp [Facets.maxLengthValue?, Facets.precisionValue?]⟩

/-- A length that is left open counts as unbounded. -/
def lengthLimit : Option UInt32 → Limit UInt32
  | some n => .bounded n
  | none => .unbounded

/-- Texts, with all three facets stated. -/
def string (unicode fixedLength : Bool) (maxLength : Option UInt32) :
    Except Failure ConceptualType :=
  make .string
    { maxLength := some (lengthLimit maxLength)
      unicode := some unicode
      fixedLength := some fixedLength }

/-- Blobs, with both facets stated. -/
def binary (fixedLength : Bool) (maxLength : Option UInt32) : Except Failure ConceptualType :=
  make .binary { maxLength := some (lengthLimit maxLength), fixedLength := some fixedLength }

/-- Decimals with so many digits in all, and so many after the point. -/
def decimal (precision scale : UInt8) : Except Failure ConceptualType :=
  make .decimal { precision := some (.bounded precision), scale := some (.bounded scale) }

/-- Decimals with any number of digits. -/
def decimalDefault : ConceptualType :=
  ⟨.decimal, { precision := some .unbounded, scale := some .unbounded },
    by constructor <;> simp [Facets.maxLengthValue?, Facets.precisionValue?, Limit.value?]⟩

/-- Date/times. -/
def dateTime (preserveSeconds : Option Bool) : ConceptualType :=
  ⟨.dateTime, { preserveSeconds },
    by constructor <;> simp [Facets.maxLengthValue?, Facets.precisionValue?]⟩

/-- The same type, nullable or not. -/
def withNullable (t : ConceptualType) (nullable : Bool) : ConceptualType :=
  ⟨t.kind, { t.facets with nullable := some nullable }, t.applicable.withNullable _⟩

/-- A type is nullable unless it states otherwise. -/
def isNullable (t : ConceptualType) : Bool :=
  t.facets.nullable.getD true

/-- The text of a type: its kind, and its length or else its precision and scale if both are
bounded. -/
def text (t : ConceptualType) : String :=
  "Edm." ++ t.kind.name ++
    match t.facets.maxLength, t.facets.precision, t.facets.scale with
    | some (.bounded n), _, _ => "(" ++ naturalText n.toNat ++ ")"
    | some .unbounded, _, _ => "(max)"
    | none, some (.bounded p), some (.bounded s) =>
      "(" ++ naturalText p.toNat ++ "," ++ naturalText s.toNat ++ ")"
    | none, _, _ => ""

theorem make_eq_ok_iff (kind : Kind) (f : Facets) (t : ConceptualType) :
    make kind f = .ok t ↔ t.kind = kind ∧ t.facets = f := by
  obtain ⟨k, g, hg⟩ := t
  unfold make
  split
  · rename_i e h
    simp only [reduceCtorEq, false_iff]
    rintro ⟨rfl, rfl⟩
    rw [(Facets.fault?_eq_none_iff _ _).2 hg] at h
    cases h
  · simp only [Except.ok.injEq, ConceptualType.mk.injEq]
    exact ⟨fun h => ⟨h.1.symm, h.2.symm⟩, fun h => ⟨h.1.symm, h.2.symm⟩⟩

end ConceptualType
end StoreBridge
