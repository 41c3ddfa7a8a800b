import StoreBridge.Document

/-! The members that keys of many parts build up. Such a key enters objects that other such keys
have opened, and never a value that stands on its own: only objects opened by keys can grow. -/
namespace StoreBridge.Document.Toml

/-- What stands under a part of a key: a value, or members that further keys may add to. -/
inductive Node where
  | value (d : Document)
  | branch (members : List (String × Node))

mutual

/-- The document that a node stands for. -/
def Node.document : Node → Document
  | .value d => d
  | .branch members => .assembled (documents members)

/-- The members that nodes stand for. -/
def documents : List (String × Node) → List (String × Document)
  | [] => []
  | (name, node) :: rest => (name, node.document) :: documents rest

end

/-- Replaces the first member with this name. -/
def replaceFirst (name : String) (node : Node) : List (String × Node) → List (String × Node)
  | [] => []
  | member :: rest =>
    if member.1 = name then (name, node) :: rest else member :: replaceFirst name node rest

/-- The members with a value under one more key. A key of one part always adds a member, even if
there is one of its name. -/
def graft (d : Document) : List String → List (String × Node) → Option (List (String × Node))
  | [], _ => none
  | [name], members => some (members ++ [(name, .value d)])
  | name :: next :: path, members =>
    match members.lookup name with
    | none => (graft d (next :: path) []).map fun inner => members ++ [(name, .branch inner)]
    | some (.value _) => none
    | some (.branch inner) =>
      (graft d (next :: path) inner).map fun inner => replaceFirst name (.branch inner) members

end StoreBridge.Document.Toml
