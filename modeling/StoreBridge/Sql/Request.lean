import StoreBridge.Sql.Instruction.Reader
import StoreBridge.Sql.Reader

/-! What a text asks of the store: an instruction, and the placeholders in it. Nothing is read past
a null character or past the first statement, and a statement with characters in it that no token
can begin with is refused. Variables have numbers in the order in which they first occur; a variable
that is a number shares its value with the placeholder of that number. -/
namespace StoreBridge.Sql
open Text

/-- What a text asks of the store. -/
structure Request where
  instruction : Instruction
  /-- The placeholders, each once, in the order in which they first occur. -/
  placeholders : List Placeholder
  /-- The placeholders with their numbers. -/
  numbers : List (Nat × Placeholder) := []

namespace Request

/-- The request that a statement of the provider is. -/
def ofStatement (s : Statement) : Request where
  instruction := s.instruction
  placeholders := s.placeholders

/-- The greatest number of a variable. -/
def variableLimit : Nat := 32766

/-- What is known of the numbers of variables: the greatest one, and those of placeholders. -/
abbrev Numbering := Nat × List (Nat × Placeholder)

/-- The numbering with one more variable, unless its number is out of range. -/
def numbered? : Numbering → Variable → Option Numbering
  | (last, numbers), .numbered n =>
    if 0 < n ∧ n ≤ variableLimit then some (max last n, numbers) else none
  | (last, numbers), .anonymous =>
    if last < variableLimit then some (last + 1, numbers) else none
  | (last, numbers), .named p =>
    if numbers.any fun (_, q) => q == p then some (last, numbers)
    else if last < variableLimit then some (last + 1, numbers ++ [(last + 1, p)])
    else none

/-- The request that tokens are. -/
def ofTokens? (ts : List Token) : Option Request := do
  let instruction ← Instruction.ofTokens? ts
  let occurring ← (variableTokens ts).mapM (·.asVariable?)
  let (_, numbers) ← occurring.foldlM numbered? (0, [])
  return ⟨instruction, numbers.map (·.2), numbers⟩

/-- The request that a text is. -/
def ofText? (s : String) : Option Request :=
  let cs := s.toList.takeWhile (· != '\x00')
  let ts := firstTokens cs
  if (statementTokens ts).any (·.kind == .illegal) then none
  else match (Statement.ofChars? cs).filter fun statement => statement.chars == cs with
  | some statement =>
    if statement.placeholders.length ≤ variableLimit then some (ofStatement statement) else none
  | none => ofTokens? ts

/-- The value of a variable, given the values of placeholders. One that has none is null. -/
def valueOf (r : Request) (binding : List (Placeholder × Datum)) : Variable → Datum
  | .named p => (binding.lookup p).getD .null
  | .numbered n => ((r.numbers.lookup n).bind fun p => binding.lookup p).getD .null
  | .anonymous => .null

end Request
end StoreBridge.Sql
