import StoreBridge.Facets
import StoreBridge.Failure
import StoreBridge.Text.Split

/-! Assignments of facets, written `name=value`. The name is what stands before the first equals
sign; blanks around it, the case of its letters, and the choice between hyphen and underscore do not
matter. An assignment changes the facet that it names and no other, or fails and changes nothing. -/
namespace StoreBridge

/-- The facets by name. -/
inductive FacetName where
  | maxLength | precision | scale | unicode | fixedLength | preserveSeconds | nullable
deriving DecidableEq

namespace FacetName

/-- The keys under which a facet can be assigned. -/
def keys : FacetName → List String
  | maxLength => ["max_length", "maxlength"]
  | precision => ["precision"]
  | scale => ["scale"]
  | unicode => ["unicode"]
  | fixedLength => ["fixed_length", "fixedlength"]
  | preserveSeconds => ["preserve_seconds", "preserveseconds"]
  | nullable => ["nullable"]

/-- Every facet once. -/
def all : List FacetName :=
  [maxLength, precision, scale, unicode, fixedLength, preserveSeconds, nullable]

/-- The facet with this key. -/
def ofKey? (key : String) : Option FacetName :=
  all.find? fun name => name.keys.contains key

end FacetName

namespace Facets
open Text

/-- The form in which keys are compared: trimmed, in small letters, with underscores. -/
def normalKey (cs : List Char) : String :=
  String.ofList ((trimChars cs).map fun c => if c = '-' then '_' else c.toLower)

/-- An unbounded limit is written as a word in any case. -/
def isUnboundedWord (value : String) : Bool :=
  sameName value Limit.keyword || sameName value "max"

/-- The limit that a value writes, the number being at most `greatest`. -/
def readLimit? (greatest : Nat) (value : String) : Option (Limit Nat) :=
  if isUnboundedWord value then some .unbounded
  else (readUnsigned? greatest value.toList).map .bounded

/-- The flag that a value writes, in any case. -/
def readFlag? (value : String) : Option Bool :=
  if sameName value "true" then some true
  else if sameName value "false" then some false
  else none

/-- A limit on numbers as one on words of some size. -/
def narrowed {α : Type} (narrow : Nat → α) : Limit Nat → Limit α
  | .unbounded => .unbounded
  | .bounded n => .bounded (narrow n)

/-- The limit that a value writes, or the failure of a facet that takes one. -/
def limitOf {α : Type} (greatest : Nat) (narrow : Nat → α) (key value : String) :
    Except Failure (Limit α) :=
  match readLimit? greatest value with
  | some limit => .ok (narrowed narrow limit)
  | none => .error (.badFacetValue value key)

/-- The flag that a value writes, or the failure of a facet that takes one. -/
def flagOf (key value : String) : Except Failure Bool :=
  match readFlag? value with
  | some flag => .ok flag
  | none => .error (.badFacetFlag value key)

/-- Sets one facet to the value written. -/
def set (f : Facets) (name : FacetName) (key value : String) : Except Failure Facets :=
  match name with
  | .maxLength => do
    return { f with maxLength := some (← limitOf 4294967295 UInt32.ofNat key value) }
  | .precision => do
    return { f with precision := some (← limitOf 255 UInt8.ofNat key value) }
  | .scale => do
    return { f with scale := some (← limitOf 255 UInt8.ofNat key value) }
  | .unicode => do return { f with unicode := some (← flagOf key value) }
  | .fixedLength => do return { f with fixedLength := some (← flagOf key value) }
  | .preserveSeconds => do return { f with preserveSeconds := some (← flagOf key value) }
  | .nullable => do return { f with nullable := some (← flagOf key value) }

/-- The facets after an assignment. -/
def assign (f : Facets) (assignment : String) : Except Failure Facets :=
  match splitOnce '=' assignment.toList with
  | none => .error (.assignmentWithoutValue assignment)
  | some (before, after) =>
    let key := normalKey before
    match FacetName.ofKey? key with
    | none => .error (.unknownFacet key)
    | some name => f.set name key (String.ofList (trimChars after))

/-- The facets after all the assignments, up to the first that fails. -/
def assignAll (f : Facets) : List String → Except Failure Facets
  | [] => .ok f
  | a :: rest => do (← f.assign a).assignAll rest

/-- The facets after a run of assignments in which those that fail are passed over. -/
def assignEach (f : Facets) : List String → Facets
  | [] => f
  | a :: rest => match f.assign a with
    | .ok g => g.assignEach rest
    | .error _ => f.assignEach rest

end Facets
end StoreBridge
