import StoreBridge.Sql.Definition
import StoreBridge.Sql.Expression.Reader

/-! Reading definitions of tables. Columns come before constraints of the table; only the first of
these needs a comma in front of it. -/
namespace StoreBridge.Sql
open Grammar

/-- The resolution that a word names. -/
def Resolution.ofWord? (word : String) : Option Resolution :=
  [("ROLLBACK", rollback), ("ABORT", abort), ("FAIL", fail), ("IGNORE", ignore),
    ("REPLACE", replace)].lookup word

/-- The resolution of conflicts, if one follows. -/
def onConflict? : Grammar (Option Resolution) := fun ts =>
  match keywords? ["ON", "CONFLICT"] ts with
  | none => some (none, ts)
  | some (t :: rest) => (Resolution.ofWord? t.keyword).map (some ·, rest)
  | some [] => none

/-- The direction of an order; without a word it is ascending. -/
def isDescending (ts : List Token) : Bool × List Token :=
  match keyword? "DESC" ts, keyword? "ASC" ts with
  | some rest, _ => (true, rest)
  | none, some rest => (false, rest)
  | none, none => (false, ts)

/-- The action behind `ON DELETE` and the like. -/
def ReferenceAction.read? (ts : List Token) : Option (ReferenceAction × List Token) :=
  let actions : List (List String × ReferenceAction) :=
    [(["SET", "NULL"], setNull), (["SET", "DEFAULT"], setDefault), (["CASCADE"], cascade),
      (["RESTRICT"], restrict), (["NO", "ACTION"], none)]
  actions.findSome? fun (words, action) => (keywords? words ts).map (action, ·)

/-- The actions of a reference, in at most so many steps. -/
def referenceActions? : (steps : Nat) → ReferenceTarget → Grammar ReferenceTarget
  | 0, _, _ => none
  | steps + 1, target, ts =>
    match keyword? "MATCH" ts with
    | some rest => do
      let (_, rest) ← Grammar.name? rest
      referenceActions? steps target rest
    | none =>
      match keywords? ["ON", "DELETE"] ts, keywords? ["ON", "UPDATE"] ts,
          keywords? ["ON", "INSERT"] ts with
      | some rest, _, _ => do
        let (action, rest) ← ReferenceAction.read? rest
        referenceActions? steps { target with onDelete := action } rest
      | none, some rest, _ => do
        let (action, rest) ← ReferenceAction.read? rest
        referenceActions? steps { target with onUpdate := action } rest
      | none, none, some rest => do
        let (_, rest) ← ReferenceAction.read? rest
        referenceActions? steps target rest
      | none, none, none => some (target, ts)

/-- A name in a list of columns. An order may stand behind it that says nothing. -/
def listedName? : Grammar String := fun ts => do
  let (name, rest) ← Grammar.name? ts
  return (name, (isDescending rest).2)

/-- What a reference is to, behind its first word. -/
def referenceTarget? : Grammar ReferenceTarget := fun ts => do
  let (table, rest) ← Grammar.name? ts
  let (columns, rest) ← match mark? "(" rest with
    | none => some ([], rest)
    | some _ => parenthesised? (list? listedName? rest.length) rest
  referenceActions? (rest.length + 1) ⟨table, columns, .none, .none⟩ rest

/-- Whether a reference is checked at the end only, behind the words that may say so. -/
def deferral (ts : List Token) : Bool × List Token :=
  match keywords? ["INITIALLY", "DEFERRED"] ts, keywords? ["INITIALLY", "IMMEDIATE"] ts with
  | some rest, _ => (true, rest)
  | none, some rest => (false, rest)
  | none, none => (false, ts)

/-- Whether a reference is checked at the end only, if something is said about it. -/
def deferral? (ts : List Token) : Option (Bool × List Token) :=
  match keyword? "DEFERRABLE" ts, keywords? ["NOT", "DEFERRABLE"] ts with
  | some rest, _ => some (deferral rest)
  | none, some rest => some (false, (deferral rest).2)
  | none, none => none

/-- A literal with its text. -/
def literalWithSource? : Grammar (Expression Name) := fun
  | t :: rest => (Expression.literal? t).map (·, rest)
  | [] => none

/-- The value of a default with its text: a literal, with a sign or without, a word that is taken
for a text, or an expression in parentheses. -/
def default? (waiting : Nat) : Grammar ColumnConstraint := fun ts => do
  match mark? "(" ts with
  | some inner =>
    let (e, rest) ← Expression.ofTokens? (waiting + 1) inner
    let source := Token.sourceBefore inner rest
    return (.default e source, ← mark? ")" rest)
  | none =>
    let (e, rest) ← match mark? "-" ts, mark? "+" ts with
      | some rest, _ => (literalWithSource? rest).map fun (e, rest) =>
        (Expression.unary .minus e, rest)
      | none, some rest => literalWithSource? rest
      | none, none =>
        match literalWithSource? ts, ts with
        | some result, _ => some result
        | none, t :: rest =>
          if Token.halfReservedWords.contains t.keyword && t.keyword != "INDEXED" then none
          else t.name?.map fun name =>
            (match t.quoting, t.keyword with
              | .bare, "TRUE" => .natural 1
              | .bare, "FALSE" => .natural 0
              | _, _ => .datum (.text name), rest)
        | none, [] => none
    return (.default e (String.ofList (Token.sourceChars (Token.taken ts rest))), rest)

/-- A computed value, behind the word `AS`. -/
def generated? (waiting : Nat) : Grammar ColumnConstraint := fun ts => do
  let (e, rest) ← parenthesised? (Expression.ofTokens? (waiting + 1)) ts
  match rest with
  | t :: after =>
    if t.kind = .word ∧ t.name?.isSome ∧ t.plainName?.isSome then
      return (.generated e (some t.keyword), after)
    else return (.generated e none, rest)
  | [] => return (.generated e none, rest)

/-- A constraint of a column. -/
def columnConstraint? (waiting : Nat) : Grammar ColumnConstraint := fun ts =>
  match ts with
  | [] => none
  | t :: rest =>
    match t.keyword with
    | "CONSTRAINT" => (Grammar.name? rest).map fun (_, rest) => (.idle, rest)
    | "DEFAULT" => default? (waiting + 1) rest
    | "NULL" => (onConflict? rest).map fun (_, rest) => (.idle, rest)
    | "NOT" =>
      match keyword? "NULL" rest with
      | some rest => (onConflict? rest).map fun (r, rest) => (.notNull r, rest)
      | none => (deferral? ts).map fun (d, rest) => (.deferred d, rest)
    | "PRIMARY" => do
      let (descending, rest) := isDescending (← keyword? "KEY" rest)
      let (resolution, rest) ← onConflict? rest
      let (counted, rest) := optionalKeywords ["AUTOINCREMENT"] rest
      return (.primaryKey descending resolution counted, rest)
    | "UNIQUE" => (onConflict? rest).map fun (r, rest) => (.unique r, rest)
    | "CHECK" => do
      let (e, rest) ← parenthesised? (Expression.ofTokens? (waiting + 2)) rest
      return (.check e, rest)
    | "REFERENCES" => (referenceTarget? rest).map fun (r, rest) => (.references r, rest)
    | "COLLATE" =>
      match rest with
      | c :: rest => c.plainName?.map fun name => (.collate name, rest)
      | [] => none
    | "GENERATED" => do generated? (waiting + 3) (← keywords? ["ALWAYS", "AS"] rest)
    | "AS" => generated? (waiting + 1) rest
    | "DEFERRABLE" => (deferral? ts).map fun (d, rest) => (.deferred d, rest)
    | _ => none

/-- The constraints of a column, in at most so many steps. -/
def columnConstraints? (waiting : Nat) : (steps : Nat) → Grammar (List ColumnConstraint)
  | 0, _ => none
  | steps + 1, ts =>
    if (mark? "," ts).isSome || (mark? ")" ts).isSome then some ([], ts)
    else do
      let (c, rest) ← columnConstraint? waiting ts
      let (cs, rest) ← columnConstraints? waiting steps rest
      return (c :: cs, rest)

/-- A column. -/
def columnDefinition? (waiting : Nat) : Grammar ColumnDefinition := fun ts => do
  let (name, rest) ← Grammar.name? ts
  let (type, rest) ← Expression.type? rest
  let (constraints, rest) ← columnConstraints? (waiting + 2) (rest.length + 1) rest
  return (⟨name, type, constraints⟩, rest)

/-- A part of a key. Where nulls stand in its order cannot be said. -/
def keyPart? (waiting : Nat) : Grammar KeyPart := fun ts => do
  let (e, rest) ← Expression.ofTokens? waiting ts
  let (descending, rest) := isDescending rest
  return (⟨e, descending⟩, rest)

/-- The words that constraints of a table begin with. -/
def tableConstraintWords : List String :=
  ["CONSTRAINT", "PRIMARY", "UNIQUE", "CHECK", "FOREIGN"]

/-- A constraint of a table. -/
def tableConstraint? (waiting : Nat) : Grammar TableConstraint := fun ts =>
  match ts with
  | [] => none
  | t :: rest =>
    match t.keyword with
    | "CONSTRAINT" => (Grammar.name? rest).map fun (_, rest) => (.idle, rest)
    | "PRIMARY" => do
      let rest ← mark? "(" (← keyword? "KEY" rest)
      let (parts, rest) ← listFrom? keyPart? (waiting + 3) 2 rest.length rest
      let (counted, rest) := optionalKeywords ["AUTOINCREMENT"] rest
      let (resolution, rest) ← onConflict? (← mark? ")" rest)
      return (.primaryKey parts resolution counted, rest)
    | "UNIQUE" => do
      let (parts, rest) ← parenthesised? (listFrom? keyPart? (waiting + 2) 2 rest.length) rest
      let (resolution, rest) ← onConflict? rest
      return (.unique parts resolution, rest)
    | "CHECK" => do
      let (e, rest) ← parenthesised? (Expression.ofTokens? (waiting + 2)) rest
      let (_, rest) ← onConflict? rest
      return (.check e, rest)
    | "FOREIGN" => do
      let rest ← keyword? "KEY" rest
      let (columns, rest) ← parenthesised? (list? listedName? rest.length) rest
      let (target, rest) ← referenceTarget? (← keyword? "REFERENCES" rest)
      let (deferred, rest) := (deferral? rest).getD (false, rest)
      return (.foreignKey columns target deferred, rest)
    | _ => none

/-- The constraints of a table up to the closing parenthesis, in at most so many steps. Behind the
first one so many more parts wait. -/
def tableConstraints? : (waiting more steps : Nat) → Grammar (List TableConstraint)
  | _, _, 0, _ => none
  | waiting, more, steps + 1, ts =>
    match mark? ")" ts with
    | some rest => some ([], rest)
    | none => do
      let (c, rest) ← tableConstraint? waiting ts
      let rest := match mark? "," rest with
        | some (t :: after) => if tableConstraintWords.contains t.keyword then t :: after else rest
        | _ => rest
      let (cs, rest) ← tableConstraints? (waiting + more) 0 steps rest
      return (c :: cs, rest)

/-- Columns, and then constraints, up to the closing parenthesis, in at most so many steps. Behind
the first column so many more parts wait. -/
def contents? : (waiting more steps : Nat) →
    Grammar (List ColumnDefinition × List TableConstraint)
  | _, _, 0, _ => none
  | waiting, more, steps + 1, ts => do
    let (c, rest) ← columnDefinition? waiting ts
    match mark? "," rest with
    | none => return (([c], []), ← mark? ")" rest)
    | some rest =>
      if rest.head?.any fun t => tableConstraintWords.contains t.keyword then
        let (constraints, rest) ← tableConstraints? (waiting + more) 2 (rest.length + 1) rest
        return (([c], constraints), rest)
      else
        let ((cs, constraints), rest) ← contents? (waiting + more) 0 steps rest
        return ((c :: cs, constraints), rest)

/-- An option of a table, in capitals. -/
def tableOption? : Grammar String := fun ts => do
  let (without, rest) := optionalKeywords ["WITHOUT"] ts
  let (name, rest) ← Grammar.name? rest
  match without, Text.upper name with
  | true, "ROWID" => return ("ROWID", rest)
  | false, "STRICT" => return ("STRICT", rest)
  | _, _ => none

/-- The definition of a table that a text is. What follows it does not matter. -/
def Definition.ofText? (s : String) : Option Definition := do
  let named ← keywords? ["CREATE", "TABLE"] (Token.ofText s)
  let (name, rest) ← Grammar.name? named
  let rest ← mark? "(" rest
  let ((columns, constraints), rest) ← contents? 3 2 (rest.length + 1) rest
  let (options, rest) ←
    if isEnd rest then some ([], rest) else list? tableOption? rest.length rest
  if isEnd rest then
    return {
      name := name
      columns := columns
      constraints := constraints
      withoutRowId := options.contains "ROWID"
      isStrict := options.contains "STRICT"
      source := "CREATE TABLE " ++
        String.ofList (Token.sourceChars (Token.taken named rest)) }
  else none

end StoreBridge.Sql
