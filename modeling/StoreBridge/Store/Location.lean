import StoreBridge.Text.Digit
import StoreBridge.Text.Split

/-! Where a store is. It is named by a path, or by a resource name of the scheme `file`: behind the
scheme there may be an authority, of which only the own machine is known, then a path, options
behind a question mark, and a fragment, which says nothing. Path and options may hold octets as
pairs of hexadecimal digits, and a null octet hides what follows it in its part. -/
namespace StoreBridge.Store
open Text

/-- Where a store is. -/
inductive Location where
  | memory
  | file (path : String)
deriving DecidableEq

namespace Location

/-- How a store is to be used. -/
inductive Access where
  | readOnly | readWrite | create | memory
deriving DecidableEq

/-- The access with a name. -/
def Access.ofName? : String → Option Access
  | "ro" => some readOnly
  | "rw" => some readWrite
  | "rwc" => some create
  | "memory" => some memory
  | _ => none

/-- How much an access allows. What is in memory can be used in every way. -/
def Access.extent : Access → Nat
  | readOnly => 1
  | readWrite => 2
  | create => 3
  | memory => 4

/-- What the options of a resource name settle. -/
structure Options where
  access : Access := .readOnly
  system : String := "unix"
deriving DecidableEq

/-- The options with one more taken into account. No option allows more than those before it, but
what is in memory is always allowed. Options that are not known say nothing. -/
def Options.take? (o : Options) (name value : String) : Option Options :=
  match name with
  | "vfs" => some { o with system := value }
  | "cache" => if value = "shared" ∨ value = "private" then some o else none
  | "mode" => do
    let access ← Access.ofName? value
    if access = .memory ∨ access.extent ≤ o.access.extent then some { o with access := access }
    else none
  | _ => some o

/-- The systems of files by which a file can be reached. -/
def fileSystems : List String :=
  ["unix", "unix-none", "unix-dotfile", "unix-excl"]

/-- The system of files that lives in memory. -/
def memorySystem : String := "memdb"

/-- The octets that a part of a resource name stands for. -/
def partOctets : List Char → List UInt8
  | [] => []
  | '%' :: a :: b :: rest =>
    match hexValue? a, hexValue? b with
    | some high, some low =>
      if 16 * high + low = 0 then [] else UInt8.ofNat (16 * high + low) :: partOctets rest
    | _, _ => String.utf8EncodeChar '%' ++ partOctets (a :: b :: rest)
  | c :: rest => String.utf8EncodeChar c ++ partOctets rest

/-- The text that a part of a resource name stands for. -/
def partText? (cs : List Char) : Option String :=
  String.fromUTF8? ⟨(partOctets cs).toArray⟩

/-- What follows the authority, if it is none or the own machine. -/
def afterAuthority? : List Char → Option (List Char)
  | '/' :: '/' :: rest =>
    if ["", "localhost"].contains (String.ofList (rest.takeWhile (· != '/'))) then
      some (rest.dropWhile (· != '/'))
    else none
  | cs => some cs

/-- The options with those taken into account that stand in a query. An option without a name ends
nothing and says nothing; one without a value has the empty one. -/
def Options.ofQuery? (o : Options) (cs : List Char) : Option Options :=
  (splitAt '&' cs).foldlM (fun o part => do
    let (name, value) := (splitOnce '=' part).getD (part, [])
    match partText? name with
    | none => return o
    | some name => o.take? name ((partText? value).getD "\x00")) o

/-- The place that a path names. A store without a name is in memory. -/
def ofPath (path : String) : Location :=
  if path = "" ∨ path = ":memory:" then memory else file path

/-- The place of a store, by the path and the options of its resource name. -/
def ofParts? (path : String) (o : Options) : Option Location :=
  if o.system = memorySystem then some memory
  else if !fileSystems.contains o.system then none
  else if o.access = .memory then some memory
  else some (ofPath path)

/-- The scheme of resource names. -/
def scheme : List Char := "file:".toList

/-- The place that a path or a resource name gives. -/
def ofText? (s : String) : Option Location :=
  if scheme.isPrefixOf s.toList then do
    let cs ← afterAuthority? (s.toList.drop scheme.length)
    let cs := cs.takeWhile (· != '#')
    let (path, query) := (splitOnce '?' cs).getD (cs, [])
    ofParts? (← partText? path) (← Options.ofQuery? {} query)
  else some (ofPath s)

end Location
end StoreBridge.Store
