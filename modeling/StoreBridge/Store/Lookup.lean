import StoreBridge.Store.Evaluation

/-! Looking up what the names in an expression refer to, and whether the expression can be evaluated
at all: its functions and collations have to be known, and it must not be too deep. -/
namespace StoreBridge.Store
open Sql Text

/-- The other names of the ids of rows. -/
def idNames : List String :=
  ["ROWID", "OID", "_ROWID_"]

/-- A name is one of those of the ids. -/
def isIdName (name : String) : Bool :=
  idNames.contains (upper name)

/-- What can be named in an expression. -/
structure Surroundings where
  /-- The names that a table goes by, if there is one. -/
  titles : List String := []
  columns : List (String × Reference) := []
  hasIds : Bool := false
  /-- Functions of all rows may be called. -/
  allowsSummaries : Bool := false
  /-- Functions that the store itself answers may be called, and variables may stand. -/
  isStatement : Bool := true

namespace Surroundings

/-- What a name refers to among the columns and the ids. -/
def referenceOf? (s : Surroundings) (n : Name) : Option Reference :=
  if n.qualifier.all fun q => s.titles.any (sameName q) then
    match s.columns.find? fun (name, _) => sameName name n.text with
    | some (_, r) => some r
    | none => if s.hasIds && isIdName n.text then some .rowId else none
  else none

/-- What stands for a name. A name in double quotes that refers to nothing stands for itself. -/
def formulaOf (s : Surroundings) (n : Name) : Except StoreFault Formula :=
  match s.referenceOf? n, n.qualifier, n.quoting with
  | some r, _, _ => .ok (.name r)
  | none, none, .double => .ok (.name (.word n.text))
  | none, none, .bare =>
    if sameName n.text "true" then .ok (.truth true)
    else if sameName n.text "false" then .ok (.truth false)
    else .error (.noSuchColumn n.text)
  | none, _, _ => .error (.noSuchColumn n.text)

end Surroundings

/-- The functions without arguments that the store itself answers. -/
def factNames : List String :=
  ["changes", "last_insert_rowid", "sqlite_version", "total_changes"]

/-- A function can be called with so many arguments. -/
def isFunction (name : String) (count : Nat) : Bool :=
  (count == 0 && ((present name).isSome || factNames.contains (lower name))) ||
    (Function.find? name count).isSome

namespace Formula

mutual

/-- The fault of an expression that cannot be evaluated. Functions of all rows may be called where
they are allowed, but not within each other. -/
def fault? (s : Surroundings) (summaries : Bool) : Formula → Option StoreFault
  | .unary .minus (.bits n) => if n = 0x8000000000000000 then some .outOfRange else none
  | .unary _ e => fault? s summaries e
  | .binary _ a b => (fault? s summaries a).or (fault? s summaries b)
  | .between e a b =>
    (fault? s summaries e).or ((fault? s summaries a).or (fault? s summaries b))
  | .among e items => (fault? s summaries e).or (firstFault? s summaries items)
  | .choice parts => firstFault? s summaries parts
  | .cast e _ => fault? s summaries e
  | .collate e c =>
    if (Collation.ofName? c).isNone then some (.noSuchCollation c) else fault? s summaries e
  | .call function arguments =>
    if isSummary function arguments.length then
      if summaries then firstFault? s false arguments else some (.noSuchFunction function)
    else if isFunction function arguments.length then firstFault? s summaries arguments
    else some (.noSuchFunction function)
  | .callOfRows function => if summaries then none else some (.noSuchFunction function)
  | .parameter _ => if s.isStatement then none else some .badArgument
  | _ => none

/-- The first fault of some expressions. -/
def firstFault? (s : Surroundings) (summaries : Bool) : List Formula → Option StoreFault
  | [] => none
  | e :: rest => (fault? s summaries e).or (firstFault? s summaries rest)

end

mutual

/-- A function of all rows is called in an expression. -/
def hasSummary : Formula → Bool
  | .unary _ e => hasSummary e
  | .binary _ a b => hasSummary a || hasSummary b
  | .between e a b => hasSummary e || hasSummary a || hasSummary b
  | .among e items => hasSummary e || anySummary items
  | .choice parts => anySummary parts
  | .cast e _ => hasSummary e
  | .collate e _ => hasSummary e
  | .call function arguments => isSummary function arguments.length || anySummary arguments
  | .callOfRows _ => true
  | _ => false

/-- A function of all rows is called in some expressions. -/
def anySummary : List Formula → Bool
  | [] => false
  | e :: rest => hasSummary e || anySummary rest

end

mutual

/-- The columns and the ids that an expression names. -/
def named : Formula → List Reference
  | .name r => [r]
  | .unary _ e => named e
  | .binary _ a b => named a ++ named b
  | .between e a b => named e ++ named a ++ named b
  | .among e items => named e ++ namedInAll items
  | .choice parts => namedInAll parts
  | .cast e _ => named e
  | .collate e _ => named e
  | .call _ arguments => namedInAll arguments
  | _ => []

/-- The columns and the ids that some expressions name. -/
def namedInAll : List Formula → List Reference
  | [] => []
  | e :: rest => named e ++ namedInAll rest

end

/-- The expression depends on the row. -/
def isOfRow (e : Formula) : Bool :=
  (named e).any fun
    | .word _ => false
    | _ => true

/-- The positions of the columns that an expression names. -/
def positions (e : Formula) : List Nat :=
  (named e).filterMap fun
    | .column i _ _ => some i
    | _ => none

end Formula

/-- The expression in which the names have been looked up. -/
def Surroundings.formula (s : Surroundings) (e : Expression Name) : Except StoreFault Formula := do
  if Expression.heightLimit < e.height then .error .tooLarge
  else
    let f ← e.replaceM id s.formulaOf
    match Formula.fault? s s.allowsSummaries f with
    | some fault => .error fault
    | none => return f

/-- An expression without names. -/
def nowhere : Surroundings := { isStatement := false }

end StoreBridge.Store
