import StoreBridge.Command.Execution
import StoreBridge.CommandTree.Record

/-! Scripts of commands that are run on one store, step by step. A step is a description of a tree,
which is read and compiled to a command, with values for its parameters and the way in which it is
run. The first thing that fails is the answer to the step, and the steps behind it go on with the
store as it is then. -/
namespace StoreBridge.Script

/-- The way in which the command of a step is run. -/
inductive Mode where
  | query
  | execute
deriving DecidableEq

/-- A description of a value that a parameter is given. -/
structure Assignment where
  name : String
  value : Document

/-- A step of a script. -/
structure Step where
  tree : Document
  assignments : List Assignment
  mode : Mode

/-- What a step answers: the result of a query, or the number of rows that were changed. -/
inductive Answer where
  | result (r : Command.Result)
  | changed (rows : Nat)
deriving DecidableEq

/-- What a document describes. -/
def decode {α : Type} (read : Document → Option α) (d : Document) : Except Failure α :=
  match read d with
  | some a => .ok a
  | none => .error .badJson

/-- Gives parameters of a command values, one after the other. -/
def assign (c : Command) : List Assignment → Except Failure Command
  | [] => .ok c
  | a :: rest => do
    let value ← decode (Value.ofDocument? .strict) a.value
    assign (← c.bind a.name value) rest

/-- The command of a step, which a generator makes. -/
def Step.command (generate : Generator) (form : DateTimeForm) (s : Step) :
    Except Failure Command := do
  let tree ← decode (CommandTree.ofDocument? .strict) s.tree
  assign (← tree.compile generate form) s.assignments

/-- What a command answers in one of the ways to run it, and the store after it. -/
def Mode.run (store : Store) (form : DateTimeForm) (c : Command) :
    Mode → Except Failure Answer × Store
  | query =>
    let (answer, store) := c.query store form
    (answer.map .result, store)
  | execute =>
    let (answer, store) := c.execute store form
    (answer.map .changed, store)

/-- What a step answers, and the store after it. -/
def Step.run (generate : Generator) (form : DateTimeForm) (store : Store) (s : Step) :
    Except Failure Answer × Store :=
  match s.command generate form with
  | .error failure => (.error failure, store)
  | .ok c => s.mode.run store form c

/-- What the steps of a script answer, and the store after them. -/
def run (generate : Generator) (form : DateTimeForm) (store : Store) :
    List Step → List (Except Failure Answer) × Store
  | [] => ([], store)
  | s :: rest =>
    let (answer, store) := s.run generate form store
    let (answers, store) := run generate form store rest
    (answer :: answers, store)

end StoreBridge.Script
