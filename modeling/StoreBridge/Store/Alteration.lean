import StoreBridge.Store.Dependency
import StoreBridge.Store.ForeignKey

/-! Alterations: what a change does to tables, as far as it is known before the change is made. The
references that an alteration concerns have to be such that they can be followed, whether or not any
row is altered; and where rows follow those that they refer to, their table is altered in turn. -/
namespace StoreBridge.Store
open Sql Text

/-- What is done to rows of a table. -/
inductive Alteration where
  | removal (table : String)
  /-- Columns get new values. -/
  | assignment (table : String) (positions : List Nat)
deriving DecidableEq

/-- A reference can be followed. -/
def checkReference (ts : Tables) (child : Table) (fk : ForeignKey) : Except StoreFault Unit :=
  match ts.find? fk.target.table with
  | none => .error (.noSuchTable fk.target.table)
  | some parent => if (fk.target? parent).isNone then .error (.badDefinition child.name) else .ok ()

/-- The references of a table, and those to it, can be followed as far as they are concerned. -/
def checkReferences (ts : Tables) (t : Table)
    (isOwnConcerned isOtherConcerned : ForeignKey → Bool) : Except StoreFault Unit := do
  (t.references.filter isOwnConcerned).forM (checkReference ts t)
  ((ts.referencesTo t).filter fun (_, fk) => isOtherConcerned fk).forM
    fun (child, fk) => checkReference ts child fk

/-- An assignment to some columns concerns the key that a reference is to. -/
def ForeignKey.isToOneOf (fk : ForeignKey) (parent : Table) (positions : List Nat) : Bool :=
  positions.any fun i => parent.columns[i]?.any fun c =>
    if fk.target.columns.isEmpty then c.keyPlace != 0
    else fk.target.columns.any (sameName c.name)

/-- What is done to the rows of a table that refer to altered rows. -/
def follower? (child : Table) (fk : ForeignKey) (isRemoval : Bool) :
    ReferenceAction → Option Alteration
  | .none | .restrict => none
  | .cascade =>
    some (if isRemoval then .removal child.name else .assignment child.name fk.positions)
  | _ => some (.assignment child.name fk.positions)

/-- What follows from an alteration whose references can be followed. An assignment that concerns
any references concerns all those to the table, and those of the table to itself. -/
def consequences (ts : Tables) : Alteration → Except StoreFault (List Alteration)
  | .removal table =>
    match ts.find? table with
    | none => .ok []
    | some t => do
      checkReferences ts t (fun _ => true) fun _ => true
      return (ts.referencesTo t).filterMap fun (child, fk) =>
        follower? child fk true fk.target.onDelete
  | .assignment table positions =>
    match ts.find? table with
    | none => .ok []
    | some t =>
      let changed := t.changedWith positions
      let own (fk : ForeignKey) : Bool := fk.positions.any changed.contains
      let others := (ts.referencesTo t).filter fun (_, fk) => fk.isToOneOf t changed
      if !t.isWritable then .error (.badDefinition t.name)
      else if t.references.any own || !others.isEmpty then do
        checkReferences ts t (fun fk => own fk || sameName fk.target.table t.name) fun _ => true
        return others.filterMap fun (child, fk) => follower? child fk false fk.target.onUpdate
      else .ok []

/-- Alterations, with all that follow from them, concern only references that can be followed. Each
is looked at once, in at most so many steps. -/
def checkAlterations (ts : Tables) :
    (steps : Nat) → (seen pending : List Alteration) → Except StoreFault Unit
  | _, _, [] => .ok ()
  | 0, _, _ => .error .tooLarge
  | steps + 1, seen, a :: pending =>
    if seen.contains a then checkAlterations ts steps seen pending
    else do
      let more ← consequences ts a
      checkAlterations ts steps (a :: seen) (more ++ pending)

/-- Alterations can be made. From each follow at most as many as there are references, and they are
of at most two kinds for each reference. -/
def canAlter (ts : Tables) (alterations : List Alteration) : Except StoreFault Unit :=
  let count := ts.foldl (fun sum t => sum + t.references.length) 0
  checkAlterations ts ((2 * count + alterations.length + 1) * (count + 1) + alterations.length) []
    alterations

/-- A row may take the place of others, as the statement or a key that is concerned has it. -/
def Table.mayReplace (t : Table) (resolution : Option Resolution) (isConcerned : Key → Bool)
    (isIdConcerned : Bool) : Bool :=
  let replaces (own : Option Resolution) : Bool := resolution.or own == some .replace
  t.keys.any (fun key => isConcerned key && replaces key.resolution) ||
    (isIdConcerned && replaces t.idResolution)

/-- The alterations that an update is: rows whose place others take are removed. -/
def Table.updating (t : Table) (resolution : Option Resolution) (positions : List Nat)
    (changesId : Bool) : List Alteration :=
  let changed := t.changedWith positions
  let touches (key : Key) : Bool :=
    changesId || key.columns.any fun c => changed.contains c.position
  (if t.mayReplace resolution touches changesId then [.removal t.name] else []) ++
    [.assignment t.name positions]

/-- Rows can be inserted. References to the table are only followed where they are checked at the
end, or where other rows may be touched. -/
def canInsert (ts : Tables) (t : Table) (resolution : Option Resolution) (isSingle givesId : Bool) :
    Except StoreFault Unit := do
  let replaces := t.mayReplace resolution (fun _ => true) givesId
  if replaces then canAlter ts [.removal t.name]
  checkReferences ts t (fun _ => true) fun fk => fk.isDeferred || !isSingle || replaces
  if !t.isWritable then throw (.badDefinition t.name)

end StoreBridge.Store
