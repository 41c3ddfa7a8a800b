import StoreBridge.Sql.Definition.Reader
import StoreBridge.Sql.Instruction

/-! Reading instructions. Only the first statement of a text is read: it ends at a semicolon or at
the end of the text. -/
namespace StoreBridge.Sql
open Grammar

/-- The name behind `AS`, or without that word, if there is one. -/
def title? : Grammar (Option String) := fun ts =>
  match keyword? "AS" ts with
  | some rest => (Grammar.name? rest).map fun (name, rest) => (some name, rest)
  | none =>
    match ts with
    | t :: rest =>
      match t.plainName? with
      | some name => some (some name, rest)
      | none => some (none, ts)
    | [] => some (none, [])

/-- A column of a query. -/
def resultColumn? (waiting : Nat) : Grammar ResultColumn := fun ts =>
  match mark? "*" ts, ts with
  | some rest, _ => some (.all, rest)
  | none, t :: u :: v :: rest =>
    if u.isMark "." && v.isMark "*" then t.anyName?.map fun name => (.allOf name, rest)
    else item? ts
  | none, _ => item? ts
where
  /-- An expression with its title. -/
  item? (ts : List Token) : Option (ResultColumn × List Token) := do
    let (e, rest) ← Expression.ofTokens? waiting ts
    let source := Token.sourceBefore ts rest
    let (title, rest) ← title? rest
    return (.item e title source, rest)

/-- The name of a table. The name of the only schema may stand in front of it. -/
def tableName? : Grammar String := fun ts => do
  let (name, rest) ← Grammar.name? ts
  match mark? "." rest with
  | none => return (name, rest)
  | some rest =>
    let (table, rest) ← Grammar.name? rest
    if Text.sameName name "main" then return (table, rest) else none

/-- A table in a query. -/
def queriedSource? : Grammar Source := fun ts => do
  let (table, rest) ← tableName? ts
  let (title, rest) ← title? rest
  return (⟨table, title⟩, rest)

/-- A table that is changed. Only behind `AS` there is another name for it. -/
def changedSource? : Grammar Source := fun ts => do
  let (table, rest) ← tableName? ts
  match keyword? "AS" rest with
  | none => return (⟨table, none⟩, rest)
  | some rest =>
    let (title, rest) ← Grammar.name? rest
    return (⟨table, some title⟩, rest)

/-- An expression behind a keyword, if that stands there. -/
def clause? (waiting : Nat) (word : String) : Grammar (Option (Expression Name)) := fun ts =>
  match keyword? word ts with
  | none => some (none, ts)
  | some rest => (Expression.ofTokens? (waiting + 1) rest).map fun (e, rest) => (some e, rest)

/-- A part of an order. -/
def orderPart? (waiting : Nat) : Grammar OrderPart := fun ts => do
  let (e, rest) ← Expression.ofTokens? waiting ts
  let (descending, rest) := isDescending rest
  match keywords? ["NULLS", "FIRST"] rest, keywords? ["NULLS", "LAST"] rest with
  | some rest, _ => return (⟨e, descending, some true⟩, rest)
  | none, some rest => return (⟨e, descending, some false⟩, rest)
  | none, none => return (⟨e, descending, none⟩, rest)

/-- The order of a query. -/
def order? (waiting : Nat) : Grammar (List OrderPart) := fun ts =>
  match keywords? ["ORDER", "BY"] ts with
  | none => some ([], ts)
  | some rest => listFrom? orderPart? (waiting + 2) 2 rest.length rest

/-- The bounds of a query: how many rows it answers, and how many it leaves out before. -/
def bounds? (waiting : Nat) :
    Grammar (Option (Expression Name) × Option (Expression Name)) := fun ts => do
  let (first, rest) ← clause? waiting "LIMIT" ts
  match first, mark? "," rest, keyword? "OFFSET" rest with
  | none, _, _ => return ((none, none), rest)
  | some e, some rest, _ =>
    let (limit, rest) ← Expression.ofTokens? (waiting + 3) rest
    return ((some limit, some e), rest)
  | some e, none, some rest =>
    let (offset, rest) ← Expression.ofTokens? (waiting + 3) rest
    return ((some e, some offset), rest)
  | some e, none, none => return ((some e, none), rest)

/-- The rest of a query. Each of its clauses waits for those behind it, whether it is written or
not. -/
def query? (waiting : Nat) : Grammar Query := fun ts => do
  let (distinct, rest) := optionalKeywords ["DISTINCT"] ts
  let (_, rest) := if distinct then (false, rest) else optionalKeywords ["ALL"] rest
  let (columns, rest) ← listFrom? resultColumn? (waiting + 4) 0 rest.length rest
  let (source, rest) ← match keyword? "FROM" rest with
    | none => some (none, rest)
    | some rest => (queriedSource? rest).map fun (s, rest) => (some s, rest)
  let (condition, rest) ← clause? (waiting + 4) "WHERE" rest
  let (order, rest) ← order? (waiting + 7) rest
  let ((limit, offset), rest) ← bounds? (waiting + 8) rest
  return (⟨distinct, columns, source, condition, order, limit, offset⟩, rest)

/-- A row of values in parentheses. -/
def valueRow? (waiting : Nat) : Grammar (List (Expression Name)) := fun ts =>
  parenthesised? (listFrom? Expression.ofTokens? (waiting + 1) 2 ts.length) ts

/-- Rows of values, behind the word for them. -/
def valueRows? (waiting : Nat) : Grammar (List (List (Expression Name))) := fun ts =>
  listFrom? valueRow? (waiting + 1) 1 ts.length ts

/-- The rest of an insertion. -/
def insertion? (waiting : Nat) (resolution : Option Resolution) : Grammar Instruction :=
    fun ts => do
  let (source, rest) ← changedSource? (← keyword? "INTO" ts)
  let (columns, rest) ← match mark? "(" rest with
    | none => some (none, rest)
    | some _ => (parenthesised? (list? Grammar.name? rest.length) rest).map fun (names, rest) =>
      (some names, rest)
  match keywords? ["DEFAULT", "VALUES"] rest with
  | some rest => return (.insert resolution source columns none, rest)
  | none =>
    let (rows, rest) ← valueRows? (waiting + 5) (← keyword? "VALUES" rest)
    return (.insert resolution source columns (some rows), rest)

/-- The resolution behind `OR`, if one follows. -/
def orResolution? : Grammar (Option Resolution) := fun ts =>
  match keyword? "OR" ts with
  | none => some (none, ts)
  | some (t :: rest) => (Resolution.ofWord? t.keyword).map (some ·, rest)
  | some [] => none

/-- An assignment in an update. -/
def setting? (waiting : Nat) : Grammar (String × Expression Name) := fun ts => do
  let (name, rest) ← Grammar.name? ts
  let rest ← mark? "=" rest
  let (e, rest) ← Expression.ofTokens? (waiting + 2) rest
  return ((name, e), rest)

/-- The rest of an update. -/
def change? (waiting : Nat) : Grammar Instruction := fun ts => do
  let (resolution, rest) ← orResolution? ts
  let (source, rest) ← changedSource? rest
  let rest ← keyword? "SET" rest
  let (assignments, rest) ← listFrom? setting? (waiting + 6) 2 rest.length rest
  let (condition, rest) ← clause? (waiting + 8) "WHERE" rest
  return (.update resolution source assignments condition, rest)

/-- The rest of a deletion. -/
def removal? (waiting : Nat) : Grammar Instruction := fun ts => do
  let (source, rest) ← changedSource? (← keyword? "FROM" ts)
  let (condition, rest) ← clause? (waiting + 5) "WHERE" rest
  return (.delete source condition, rest)

/-- An instruction. The text itself is what waits for it. -/
def instruction? : Grammar Instruction
  | [] => none
  | t :: rest =>
    match t.keyword with
    | "SELECT" => (query? 1 rest).map fun (q, rest) => (.select q, rest)
    | "VALUES" => (valueRows? 1 rest).map fun (rows, rest) => (.values rows, rest)
    | "INSERT" => do
      let (resolution, rest) ← orResolution? rest
      insertion? 1 resolution rest
    | "REPLACE" => insertion? 1 (some .replace) rest
    | "UPDATE" => change? 1 rest
    | "DELETE" => removal? 1 rest
    | _ => none

/-- The tokens of the first statement: semicolons in front of it are passed over. -/
def firstTokens (cs : List Char) : List Token :=
  (Token.ofChars (cs.length + 1) cs).dropWhile fun t => t.isMark ";"

/-- The tokens of a statement, up to its end. -/
def statementTokens (ts : List Token) : List Token :=
  ts.takeWhile fun t => !Grammar.isEnd [t]

/-- The tokens of the variables of a statement, in the order in which they stand. -/
def variableTokens (ts : List Token) : List Token :=
  (statementTokens ts).filter fun t => t.kind == .variable

/-- The instruction that a text begins with. -/
def Instruction.ofTokens? (ts : List Token) : Option Instruction := do
  let (instruction, rest) ← instruction? ts
  if isEnd rest then some instruction else none

end StoreBridge.Sql
