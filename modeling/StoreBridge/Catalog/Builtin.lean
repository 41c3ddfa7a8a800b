import StoreBridge.Catalog

/-! The catalog of the provider. Texts and blobs have at most as many units as a signed 32-bit
number can count; what the name of a store type fixes is a constant and never stated. -/
namespace StoreBridge.Catalog

/-- The greatest length of a text or a blob. -/
def greatestLength : UInt32 := 2147483647

/-- Any length from one on; none stated means the greatest. -/
def anyLength : RangeRule UInt32 :=
  ⟨1, greatestLength, some (.bounded greatestLength), false⟩

/-- Any precision from one on. -/
def anyPrecision : RangeRule UInt8 :=
  ⟨1, 255, some (.bounded 18), false⟩

/-- Any scale. -/
def anyScale : RangeRule UInt8 :=
  ⟨0, 255, some (.bounded 0), false⟩

/-- A flag that the name fixes. -/
def always (value : Bool) : Option FlagRule :=
  some ⟨value, true⟩

/-- A store type that accepts no facets. -/
def plain (k : StoreKind) (kind : Kind) : CatalogEntry :=
  { name := k.name, kind := kind }

/-- A store type of decimals. -/
def decimals (k : StoreKind) : CatalogEntry :=
  { name := k.name, kind := .decimal, precision := some anyPrecision, scale := some anyScale }

/-- A store type of date/times. -/
def moments (k : StoreKind) (preserveSeconds : Bool) : CatalogEntry :=
  { name := k.name, kind := .dateTime, preserveSeconds := always preserveSeconds }

/-- A store type of texts. -/
def texts (k : StoreKind) (unicode fixedLength : Bool) (length : RangeRule UInt32) :
    CatalogEntry where
  name := k.name
  kind := .string
  maxLength := some length
  unicode := always unicode
  fixedLength := always fixedLength

/-- The store type of blobs: they are stored alike, and `FixedLength` is only reported. -/
def blobs (k : StoreKind) : CatalogEntry where
  name := k.name
  kind := .binary
  maxLength := some anyLength
  fixedLength := some ⟨false, false⟩

/-- The entry of each store kind. -/
def entryOf : StoreKind → CatalogEntry
  | .tinyInt => plain .tinyInt .byte
  | .smallInt => plain .smallInt .int16
  | .int => plain .int .int32
  | .integer => plain .integer .int64
  | .bit => plain .bit .boolean
  | .uniqueIdentifier => plain .uniqueIdentifier .guid
  | .float => plain .float .double
  | .real => plain .real .single
  | .decimal => decimals .decimal
  | .extDecimal => decimals .extDecimal
  | .dateTime => moments .dateTime true
  | .smallDateTime => moments .smallDateTime false
  | .varChar => texts .varChar false false anyLength
  | .char => texts .char false true anyLength
  | .nVarChar => texts .nVarChar true false anyLength
  | .nChar => texts .nChar true true anyLength
  | .xml => texts .xml true false ⟨1, greatestLength, some .unbounded, true⟩
  | .blob => blobs .blob

/-- The store types that the provider declares. -/
def builtin : Catalog where
  title := "SQLite"
  version := 1
  entries := StoreKind.all.map entryOf
  distinct := by decide +kernel

end StoreBridge.Catalog
