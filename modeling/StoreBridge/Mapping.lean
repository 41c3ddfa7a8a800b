import StoreBridge.Catalog.Builtin
import StoreBridge.ConceptualType
import StoreBridge.StoreType.Declaration

/-! The correspondence between conceptual types and store types. Every kind that the store can hold
has one store type for each combination of facets; back from a store type, facets that the
conceptual side cannot express are dropped. -/
namespace StoreBridge
open Text

/-- The precision of decimals that state none. -/
def defaultPrecision : UInt8 := 18

/-- The scale of decimals that state none. -/
def defaultScale : UInt8 := 0

/-- The store kind of texts. -/
def StoreKind.ofText (unicode fixedLength : Bool) : StoreKind :=
  match unicode, fixedLength with
  | true, true => .nChar
  | true, false => .nVarChar
  | false, true => .char
  | false, false => .varChar

/-- The length of a store type: the one stated, unless it is more than the store type can have. -/
def StoreKind.boundedLength (k : StoreKind) (f : Facets) : Except Failure (Limit UInt32) := do
  let entry ← Catalog.builtin.require k.name
  match entry.maxLengthLimit? with
  | none => .error (.maxLengthUndeclared k.name)
  | some greatest =>
    match f.maxLengthValue? with
    | some n => .ok (if n ≤ greatest then .bounded n else .unbounded)
    | none => .ok .unbounded

namespace ConceptualType

/-- The store kind and the facets for decimals: a precision that is not stated is wide enough for
the scale. -/
def decimalStorage (t : ConceptualType) : Except Failure (StoreKind × Facets) :=
  let scale := t.facets.scaleValue?.getD defaultScale
  let precision := t.facets.precisionValue?.getD (max defaultPrecision scale)
  if precision < scale then
    .error (.scaleExceedsPrecisionOf scale.toNat precision.toNat t.text)
  else
    .ok (.extDecimal, { precision := some (.bounded precision), scale := some (.bounded scale) })

/-- The store kind and the facets for a conceptual type. -/
def storage (t : ConceptualType) : Except Failure (StoreKind × Facets) :=
  match t.kind with
  | .boolean => .ok (.bit, {})
  | .byte => .ok (.tinyInt, {})
  | .int16 => .ok (.smallInt, {})
  | .int32 => .ok (.int, {})
  | .int64 => .ok (.integer, {})
  | .guid => .ok (.uniqueIdentifier, {})
  | .double => .ok (.float, {})
  | .single => .ok (.real, {})
  | .decimal => t.decimalStorage
  | .binary => do
    let length ← StoreKind.blob.boundedLength t.facets
    let fixed := if t.facets.fixedLength.getD false then some true else none
    return (.blob, { maxLength := some length, fixedLength := fixed })
  | .string => do
    let k := StoreKind.ofText (t.facets.unicode.getD true) (t.facets.fixedLength.getD false)
    return (k, { maxLength := some (← k.boundedLength t.facets) })
  | .dateTime =>
    .ok (if t.facets.preserveSeconds.getD true then .dateTime else .smallDateTime, {})
  | .sByte | .dateTimeOffset | .time => .error (.noStoreType t.text t.kind)

/-- The store type for a conceptual type. -/
def storeType (t : ConceptualType) : Except Failure StoreType := do
  let (k, f) ← t.storage
  Catalog.builtin.usage k.name f

end ConceptualType

/-- The conceptual type for a store kind with these facets. -/
def StoreKind.conceptualType (k : StoreKind) (f : Facets) : Except Failure ConceptualType :=
  match k with
  | .tinyInt | .smallInt | .int | .integer | .bit | .uniqueIdentifier | .float | .real =>
    .ok (.ofKind (Catalog.entryOf k).kind)
  | .decimal | .extDecimal =>
    match f.precisionValue?, f.scaleValue? with
    | some precision, some scale => ConceptualType.decimal precision scale
    | _, _ => .ok .decimalDefault
  | .dateTime => .ok (.dateTime none)
  | .smallDateTime => .ok (.dateTime (some false))
  | .varChar => ConceptualType.string false false f.maxLengthValue?
  | .char => ConceptualType.string false true f.maxLengthValue?
  | .nVarChar => ConceptualType.string true false f.maxLengthValue?
  | .nChar => ConceptualType.string true true f.maxLengthValue?
  | .xml => ConceptualType.string true false none
  | .blob => ConceptualType.binary (f.fixedLength.getD false) f.maxLengthValue?

namespace StoreType

/-- The conceptual type for a store type, whose name may be in any case and have blanks around it.
-/
def conceptualType (s : StoreType) : Except Failure ConceptualType :=
  let name := lower (trim s.name)
  if name.isEmpty then .error .emptyStoreTypeName
  else match StoreKind.find? name with
    | none => .error (.unknownStoreType name)
    | some k => k.conceptualType s.facets

/-- The conceptual type for a declared type. -/
def conceptualOfDeclared (declared : String) : Except Failure ConceptualType := do
  (← ofDeclared declared).conceptualType

end StoreType
end StoreBridge
