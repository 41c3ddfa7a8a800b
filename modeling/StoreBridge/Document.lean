import StoreBridge.Binary64

/-! Documents are what requests and plans are written in: nested lists and objects over plain
values. The members of an object come in the order in which they are written, and nothing keeps two
of them from having one name; what that means is for the readers of documents to say. -/
namespace StoreBridge

/-- A document. -/
inductive Document where
  | null
  | boolean (b : Bool)
  | integer (n : Int)
  | real (x : Binary64)
  | text (s : String)
  /-- A date/time that is not written as a text. -/
  | moment (s : String)
  | list (items : List Document)
  | object (members : List (String × Document))
  /-- An object that dotted keys or the headers of sections have put together. -/
  | assembled (members : List (String × Document))

namespace Document

/-- The text that a document is. -/
def text? : Document → Option String
  | text s => some s
  | _ => none

/-- The flag that a document is. -/
def boolean? : Document → Option Bool
  | boolean b => some b
  | _ => none

/-- The integer that a document is. -/
def integer? : Document → Option Int
  | integer n => some n
  | _ => none

/-- The list that a document is. -/
def list? : Document → Option (List Document)
  | list items => some items
  | _ => none

/-- The first member with this name. -/
def member? (name : String) : Document → Option Document
  | object members => members.lookup name
  | assembled members => members.lookup name
  | _ => none

mutual

/-- The document in which it no longer shows how an object was put together. -/
def levelled : Document → Document
  | list items => list (levelledItems items)
  | object members => object (levelledMembers members)
  | assembled members => object (levelledMembers members)
  | d => d

/-- The items, each levelled. -/
def levelledItems : List Document → List Document
  | [] => []
  | d :: rest => d.levelled :: levelledItems rest

/-- The members, each levelled. -/
def levelledMembers : List (String × Document) → List (String × Document)
  | [] => []
  | (name, d) :: rest => (name, d.levelled) :: levelledMembers rest

end

end Document
end StoreBridge
