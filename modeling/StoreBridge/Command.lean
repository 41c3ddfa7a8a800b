import StoreBridge.CommandTree

/-! Compiled commands: a statement's text, the way in which it is to be taken, and parameters. A
command is compiled from a tree by a generator of text, whatever that may be; its parameters are the
declared ones in order, and after them those that the generator made. -/
namespace StoreBridge

/-- How the text of a command is to be taken. -/
inductive CommandType where
  | text
  | storedProcedure
deriving DecidableEq

/-- The word for a command type. -/
def CommandType.word : CommandType → String
  | text => "text"
  | storedProcedure => "stored_procedure"

/-- The command type with this word. -/
def CommandType.ofWord? (s : String) : Option CommandType :=
  [text, storedProcedure].find? fun t => t.word == s

/-- A compiled command. -/
structure Command where
  text : String
  type : CommandType
  parameters : List Parameter
deriving DecidableEq

namespace Command

/-- The first parameter with this name. -/
def parameter? (c : Command) (name : String) : Option Parameter :=
  c.parameters.find? fun p => p.name == name

/-- Gives the first parameter with this name a value. -/
def setValue (name : String) (value : Value) : List Parameter → List Parameter
  | [] => []
  | p :: rest =>
    if p.name = name then { p with value := value } :: rest else p :: setValue name value rest

/-- Gives the parameter with this name a value. -/
def bind (c : Command) (name : String) (value : Value) : Except Failure Command :=
  match c.parameter? name with
  | none => .error (.unknownParameter name)
  | some _ => .ok { c with parameters := setValue name value c.parameters }

end Command

/-- What makes the text of a command: the parameters are those that it has made. -/
abbrev Generator := DateTimeForm → CommandTree → Except Failure Command

namespace CommandTree

/-- The parameter that a declaration stands for. The signature of a routine, where it names the
parameter, has the say on its type and direction. -/
def declared (routine : Option Routine) (p : DeclaredParameter) : Except Failure Parameter :=
  match routine.bind (·.parameter? p.name) with
  | some formal => Parameter.create formal.name formal.type formal.direction .null
  | none => Parameter.create p.name p.type .input .null

/-- The parameters that declarations stand for; `seen` holds the names declared before them. -/
def declaredAll (routine : Option Routine) :
    List String → List DeclaredParameter → Except Failure (List Parameter)
  | _, [] => .ok []
  | seen, p :: rest =>
    if seen.contains p.name then .error (.repeatedParameter p.name)
    else do
      let parameter ← declared routine p
      return parameter :: (← declaredAll routine (p.name :: seen) rest)

/-- The command that a generator makes of a tree. -/
def compile (generate : Generator) (form : DateTimeForm) (tree : CommandTree) :
    Except Failure Command := do
  let generated ← generate form tree
  let parameters ← declaredAll tree.body.routine? [] tree.parameters
  if !generated.parameters.isEmpty && !tree.body.permitsGenerated then
    .error (.generatedParameters tree.body.word)
  else
    .ok { generated with parameters := parameters ++ generated.parameters }

end CommandTree
end StoreBridge
