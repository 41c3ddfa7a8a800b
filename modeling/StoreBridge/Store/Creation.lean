import StoreBridge.Sql.Definition.Reader
import StoreBridge.Store.DeclaredType
import StoreBridge.Store.Dependency

/-! The table that a definition defines, with everything that can be wrong with a definition: names
that mean nothing, keys that contradict each other, defaults that are not constant. Pages are given
out in the order in which tables and keys are made. -/
namespace StoreBridge.Store
open Sql Text

/-- The greatest number of columns of a table, and of a key. -/
def columnLimit : Nat := 2000

/-- A table that is being made. -/
structure Draft where
  table : Table
  hasPrimaryKey : Bool := false
  nextPage : Nat

namespace Draft

/-- The draft with its last column changed. -/
def mapLast (d : Draft) (f : Column → Column) : Draft :=
  { d with table := { d.table with columns :=
    d.table.columns.dropLast ++ (d.table.columns.getLast?.map f).toList } }

/-- The fault of a definition. -/
def fault {α : Type} (d : Draft) : Except StoreFault α :=
  .error (.badDefinition d.table.name)

/-- Two keys have the same columns. -/
def sameColumns (a b : List KeyColumn) : Bool :=
  a.map (fun c => (c.position, c.collation)) == b.map fun c => (c.position, c.collation)

/-- The keys in the order in which they are checked: later ones first, and those that replace rows
at the end. -/
def ordered (key : Key) (keys : List Key) : List Key :=
  let isLast (k : Key) : Bool := k.resolution == some .replace
  if isLast key then
    keys.filter (fun k => !isLast k) ++ key :: keys.filter isLast
  else key :: keys

/-- The draft with one more key. A key with the columns of another one is that one; the two must not
be resolved in different ways. -/
def withKey (d : Draft) (columns : List KeyColumn) (resolution : Option Resolution)
    (isPrimary : Bool) : Except StoreFault Draft := do
  if columnLimit < columns.length then throw .tooLarge
  match d.table.keys.find? fun k => sameColumns k.columns columns with
  | some old =>
    if old.resolution.isSome && resolution.isSome && old.resolution != resolution then d.fault
    else
      let new := { old with
        resolution := old.resolution.or resolution, isPrimary := old.isPrimary || isPrimary }
      .ok { d with table := { d.table with keys := d.table.keys.map fun k =>
        if k.page == old.page then new else k } }
  | none =>
    let name := "sqlite_autoindex_" ++ d.table.name ++ "_" ++
      naturalText (d.table.keys.length + 1)
    .ok { d with
      table := { d.table with
        keys := ordered ⟨name, columns, resolution, isPrimary, d.nextPage⟩ d.table.keys }
      nextPage := d.nextPage + 1 }

/-- The draft with a primary key. A single column declared as `INTEGER` holds the ids. -/
def withPrimaryKey (d : Draft) (columns : List KeyColumn) (resolution : Option Resolution)
    (isCounted mayHoldIds : Bool) : Except StoreFault Draft :=
  let isComputed (c : KeyColumn) : Bool :=
    (d.table.columns[c.position]?.bind (·.computed)).isSome
  if d.hasPrimaryKey || columns.any isComputed then d.fault
  else
    let places := columns.map (·.position)
    let placed (c : Column) (i : Nat) : Column :=
      if places.contains i then { c with keyPlace := places.idxOf i + 1 } else c
    let d := { d with
      hasPrimaryKey := true
      table := { d.table with columns := d.table.columns.zipIdx.map fun (c, i) => placed c i } }
    match places with
    | [i] =>
      if mayHoldIds && (d.table.columns[i]?.any fun c => c.type == "INTEGER") then
        .ok { d with table := { d.table with
          idColumn := some i, idResolution := resolution, isCounted := isCounted } }
      else if isCounted then d.fault
      else d.withKey columns resolution true
    | _ => if isCounted then d.fault else d.withKey columns resolution true

/-- The last column as a column of a key. -/
def lastAsKey (d : Draft) (isDescending : Bool) : List KeyColumn :=
  match d.table.columns.getLast? with
  | some c => [⟨d.table.columns.length - 1, c.collation, isDescending⟩]
  | none => []

/-- The column of a key that an expression names, with the collation that it may give. -/
def keyColumn (d : Draft) (part : KeyPart) : Except StoreFault KeyColumn :=
  let (collation, e) : Option String × Expression Name := match part.key with
    | .collate e c => (some c, e)
    | e => (none, e)
  let name : Option String := match e with
    | .name ⟨none, s, _⟩ => some s
    | .datum (.text s) => some s
    | _ => none
  match name.bind d.table.position? with
  | none => d.fault
  | some i =>
    let own := (d.table.columns[i]?.map (·.collation)).getD .binary
    match collation with
    | none => .ok ⟨i, own, part.isDescending⟩
    | some c =>
      match Collation.ofName? c with
      | some c => .ok ⟨i, c, part.isDescending⟩
      | none => .error (.noSuchCollation c)

/-- A value may be a default: it holds neither names nor variables. -/
def isSettled (e : Expression Name) : Bool :=
  e.all fun
    | .name n =>
      n.qualifier.isNone && n.quoting == .bare &&
        (sameName n.text "true" || sameName n.text "false")
    | .parameter _ => false
    | _ => true

/-- The words for where a computed value is kept. -/
def isStorageWord (storage : Option String) : Bool :=
  storage.all fun word => word == "VIRTUAL" || word == "STORED"

/-- The draft in which the last column has a reference to a row of another table. -/
def withReference (d : Draft) (target : ReferenceTarget) : Except StoreFault Draft :=
  if 1 < target.columns.length then d.fault
  else .ok { d with table := { d.table with
    references := d.table.references ++ [⟨[d.table.columns.length - 1], target, false⟩] } }

/-- The draft in which the last reference is checked at the end, or at once. -/
def deferring (d : Draft) (isDeferred : Bool) : Draft :=
  { d with table := { d.table with references :=
    d.table.references.dropLast ++
      (d.table.references.getLast?.map fun r => { r with isDeferred := isDeferred }).toList } }

/-- The draft with a constraint of its last column. -/
def withColumnConstraint (d : Draft) : ColumnConstraint → Except StoreFault Draft
  | .primaryKey isDescending resolution isCounted =>
    d.withPrimaryKey (d.lastAsKey isDescending) resolution isCounted !isDescending
  | .notNull resolution =>
    .ok (d.mapLast fun c => { c with notNull := some (resolution.getD .abort) })
  | .unique resolution => d.withKey (d.lastAsKey false) resolution false
  | .check _ => .ok d
  | .default e source =>
    if !isSettled e || (d.table.columns.getLast?.bind (·.computed)).isSome then d.fault
    else .ok (d.mapLast fun c =>
      { c with default := some ⟨(nowhere.formula e).toOption, source⟩ })
  | .collate _ => .ok d
  | .references target => d.withReference target
  | .deferred isDeferred => .ok (d.deferring isDeferred)
  | .generated _ storage =>
    let isUsed (c : Column) : Bool :=
      c.default.isSome || c.computed.isSome || c.keyPlace != 0
    if !isStorageWord storage || d.table.columns.getLast?.any isUsed then d.fault
    else .ok (d.mapLast fun c =>
      { c with computed := some (.datum .null), isStored := storage == some "STORED" })
  | .idle => .ok d

/-- The collation of a column, which has to be known. -/
def collationOf (constraints : List ColumnConstraint) : Except StoreFault Collation :=
  constraints.foldlM (fun own c =>
    match c with
    | .collate name =>
      match Collation.ofName? name with
      | some c => .ok c
      | none => .error (.noSuchCollation name)
    | _ => .ok own) .binary

/-- The draft with one more column. -/
def withColumn (d : Draft) (c : ColumnDefinition) : Except StoreFault Draft := do
  if columnLimit ≤ d.table.columns.length then .error .tooLarge
  else if d.table.columns.any fun other => sameName other.name c.name then d.fault
  else
    let type := DeclaredType.ofWritten c.type
    let column : Column :=
      { name := c.name, type := type.reported, affinity := type.affinity, width := type.width
        collation := ← collationOf c.constraints }
    c.constraints.foldlM withColumnConstraint
      { d with table := { d.table with columns := d.table.columns ++ [column] } }

/-- The positions of columns that have to be there. -/
def positions (d : Draft) (names : List String) : Except StoreFault (List Nat) :=
  names.mapM fun name =>
    match d.table.position? name with
    | some i => .ok i
    | none => .error (.noSuchColumn name)

/-- The draft with a constraint of the table. -/
def withTableConstraint (d : Draft) : TableConstraint → Except StoreFault Draft
  | .primaryKey parts resolution isCounted => do
    d.withPrimaryKey (← parts.mapM d.keyColumn) resolution isCounted true
  | .unique parts resolution => do d.withKey (← parts.mapM d.keyColumn) resolution false
  | .check _ => .ok d
  | .foreignKey columns target isDeferred => do
    let positions ← d.positions columns
    if !target.columns.isEmpty && target.columns.length != columns.length then d.fault
    else return { d with table := { d.table with
      references := d.table.references ++ [⟨positions, target, isDeferred⟩] } }
  | .idle => .ok d

/-- What can be named in the checks of the table. -/
def surroundings (d : Draft) : Surroundings where
  titles := [d.table.name]
  columns := d.table.references?
  hasIds := d.table.hasIds
  isStatement := false

/-- The checks in a definition. -/
def checksOf (definition : Definition) : List (Expression Name) :=
  let own := definition.columns.flatMap fun c => c.constraints.filterMap fun
    | .check e => some e
    | _ => none
  own ++ definition.constraints.filterMap fun
    | .check e => some e
    | _ => none

/-- The expression that computes a column, if it is computed. -/
def computedBy? (c : ColumnDefinition) : Option (Expression Name) :=
  c.constraints.findSome? fun
    | .generated e _ => some e
    | _ => none

/-- The draft with the expressions of its computed columns. The ids cannot be named in them. -/
def withComputed (d : Draft) (definition : Definition) : Except StoreFault Draft := do
  let s := { d.surroundings with hasIds := false }
  let columns ← (d.table.columns.zip definition.columns).mapM fun (c, written) =>
    match computedBy? written with
    | none => .ok c
    | some e => do return { c with computed := some (← s.formula e) }
  return { d with table := { d.table with columns := columns } }

/-- The draft in which rows have no ids but stand in the order of the primary key, which must not be
null. -/
def withoutIds (d : Draft) : Except StoreFault Draft :=
  if !d.hasPrimaryKey || d.table.isCounted then d.fault
  else
    let required (c : Column) : Column :=
      if c.keyPlace != 0 then { c with notNull := c.notNull.or (some .abort) } else c
    let d := { d with table := { d.table with
      hasIds := false, columns := d.table.columns.map required } }
    match d.table.idColumn with
    | none => .ok d
    | some i =>
      { d with table := { d.table with idColumn := none } }.withKey
        [⟨i, .binary, false⟩] d.table.idResolution true

/-- The draft with strict types: they have to be known, and the primary key must not be null. -/
def withStrictTypes (d : Draft) : Except StoreFault Draft :=
  if d.table.columns.any fun c => !DeclaredType.standard.any (·.reported == c.type) then d.fault
  else
    let required (c : Column) (i : Nat) : Column :=
      if c.keyPlace != 0 && d.table.idColumn != some i then
        { c with notNull := c.notNull.or (some .abort) }
      else c
    .ok { d with table := { d.table with
      isStrict := true
      columns := d.table.columns.zipIdx.map fun (c, i) => required c i } }

end Draft

/-- The table that a definition defines, where the next page is free; and the page that is free
afterwards. -/
def Table.ofDefinition (definition : Definition) (page : Nat) :
    Except StoreFault (Table × Nat) := do
  let d : Draft :=
    { table := { name := definition.name, columns := [], source := definition.source, page := page }
      nextPage := page + 1 }
  let d ← definition.columns.foldlM Draft.withColumn d
  let d ← definition.constraints.foldlM Draft.withTableConstraint d
  let d ← if definition.isStrict then d.withStrictTypes else .ok d
  let d ← if definition.withoutRowId then d.withoutIds else .ok d
  let checks ← (Draft.checksOf definition).mapM d.surroundings.formula
  let d ← d.withComputed definition
  if d.table.columns.all (·.computed.isSome) || !d.table.isReadable then d.fault
  else return ({ d.table with checks := checks }, d.nextPage)

end StoreBridge.Store
