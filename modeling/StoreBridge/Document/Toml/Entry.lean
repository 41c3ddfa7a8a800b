import StoreBridge.Document.Toml.Node
import StoreBridge.Document.Toml.Number

/-! Values of TOML notation, and keys with values. A list may run over many lines and end in a
comma; an object in braces stands on one line and may not. -/
namespace StoreBridge.Document.Toml

/-- A bare word that is a value: a flag, a number or a date/time. -/
def bare? : Reader Document := fun cs => do
  let (word, rest) ← word? cs
  if word = "true".toList then return (.boolean true, rest)
  else if word = "false".toList then return (.boolean false, rest)
  else if (word.head?).any (fun c => Text.isDigit c || c == '-') ||
      [['i', 'n', 'f'], ['n', 'a', 'n']].contains word then numberOrMoment? cs
  else none

/-- A value that is not nested. -/
def plain? : Reader Document
  | [] => none
  | c :: rest =>
    if c = '"' ∨ c = '\'' then do
      let ((s, _), rest) ← quoted? c rest
      return (.text s, rest)
    else if c = '+' then do
      let (word, after) ← word? rest
      number? word after
    else bare? (c :: rest)

mutual

/-- A value, in at most so many steps. -/
def value? : (steps : Nat) → Reader Document
  | 0, _ => none
  | steps + 1, cs =>
    match cs with
    | '[' :: rest => do
      let (ds, rest) ← items? steps (skipSpace rest)
      return (.list ds, rest)
    | '\x7b' :: rest => do
      let rest := skip rest
      match mark? '\x7d' rest with
      | some rest => return (.object [], rest)
      | none =>
        let (members, rest) ← members? steps [] rest
        return (.object (documents members), rest)
    | cs => plain? cs

/-- The items of a list, and its closing bracket. -/
def items? : (steps : Nat) → Reader (List Document)
  | 0, _ => none
  | steps + 1, cs =>
    match mark? ']' cs with
    | some rest => some ([], rest)
    | none => do
      let (d, rest) ← value? steps cs
      let rest := skipSpace rest
      match mark? ',' rest with
      | some rest =>
        let (ds, rest) ← items? steps (skipSpace rest)
        return (d :: ds, rest)
      | none => return ([d], ← mark? ']' rest)

/-- A key, an equals sign and a value. -/
def keyValue? : (steps : Nat) → Reader (List String × Document)
  | 0, _ => none
  | steps + 1, cs => do
    let (path, rest) ← key? cs
    let (d, rest) ← value? steps (skip (← mark? '=' rest))
    return ((path, d), rest)

/-- The members of an object in braces, added to those read before, and the closing brace. -/
def members? : (steps : Nat) → List (String × Node) → Reader (List (String × Node))
  | 0, _, _ => none
  | steps + 1, before, cs => do
    let ((path, d), rest) ← keyValue? steps cs
    let members ← graft d path before
    let rest := skip rest
    match mark? '\x7d' rest with
    | some rest => return (members, rest)
    | none => members? steps members (skip (← mark? ',' rest))

end

end StoreBridge.Document.Toml
