import StoreBridge.Document

/-! Records and variants in documents. A record is an object with named members, or the list of its
members' values in their order. A variant without data is its name; one with data is an object with
the name as its only member, which stands in one piece. -/
namespace StoreBridge.Document

/-- The value of the member with a name, of which there may be one at most. -/
def onlyMember? (members : List (String × Document)) (name : String) : Option (Option Document) :=
  match members.filter (·.1 == name) with
  | [] => some none
  | [(_, d)] => some (some d)
  | _ => none

/-- The members with these names, in the order of the names. Where the names are closed there are no
other members. -/
def membersNamed? (names : List String) (closed : Bool) (members : List (String × Document)) :
    Option (List (Option Document)) :=
  if closed && !(members.all fun member => names.contains member.1) then none
  else names.mapM (onlyMember? members)

/-- The values of the members of a record, in the order of their names. A closed record has no other
members; as a list it has at least `least` of them. A date/time counts as an object with a member of
a name that no record has. -/
def fields? (names : List String) (least : Nat) (closed : Bool) :
    Document → Option (List (Option Document))
  | object members => membersNamed? names closed members
  | assembled members => membersNamed? names closed members
  | list items =>
    if least ≤ items.length ∧ items.length ≤ names.length then
      some (items.map some ++ List.replicate (names.length - items.length) none)
    else none
  | moment _ => if closed then none else some (names.map fun _ => none)
  | _ => none

/-- A member that has to be there. -/
def required? {α : Type} (read : Document → Option α) (d : Option Document) : Option α :=
  d.bind read

/-- A member that may be absent or null. -/
def optional? {α : Type} (read : Document → Option α) : Option Document → Option (Option α)
  | none => some none
  | some null => some none
  | some d => (read d).map some

/-- A member that stands for a default when it is absent. -/
def defaulted? {α : Type} (default : α) (read : Document → Option α) :
    Option Document → Option α
  | none => some default
  | some d => read d

/-- A list of things of one sort. -/
def listOf? {α : Type} (read : Document → Option α) (d : Document) : Option (List α) :=
  d.list?.bind fun items => items.mapM read

/-- A number that is not negative, up to a greatest. -/
def natural? (greatest : Nat) (d : Document) : Option Nat := do
  let n ← d.integer?
  if 0 ≤ n ∧ n ≤ greatest then some n.toNat else none

/-- A number of eight bits. -/
def uint8? (d : Document) : Option UInt8 :=
  (d.natural? 255).map UInt8.ofNat

/-- A number of 32 bits. -/
def uint32? (d : Document) : Option UInt32 :=
  (d.natural? 4294967295).map UInt32.ofNat

/-- A number, whole or not. -/
def real? : Document → Option Binary64
  | real x => some x
  | integer n => some (.ofInt n)
  | _ => none

/-- How much room variants without data are given. -/
inductive Tolerance where
  /-- Beside its name such a variant is an object with a null member. -/
  | strict
  /-- The member may be an empty object, too. -/
  | tolerant
deriving DecidableEq

/-- A variant without data. An object that has been put together is none. -/
def plainVariant? {α : Type} (tolerance : Tolerance) (find : String → Option α) :
    Document → Option α
  | text name => find name
  | object [(name, null)] => find name
  | object [(name, object [])] => if tolerance = .tolerant then find name else none
  | _ => none

/-- An object without the members that have nothing to say. -/
def ofMembers (members : List (String × Option Document)) : Document :=
  object (members.filterMap fun (name, d) => d.map fun d => (name, d))

end StoreBridge.Document
