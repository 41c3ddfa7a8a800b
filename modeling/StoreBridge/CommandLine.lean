import StoreBridge.Command.Generation
import StoreBridge.Command.Record
import StoreBridge.CommandTree.Record
import StoreBridge.Config
import StoreBridge.Document.Json
import StoreBridge.Facets.Assignment
import StoreBridge.Store.ColumnType
import StoreBridge.Store.Location
import StoreBridge.StoreType.Record

/-! The command line: one command with its arguments, and anywhere among them a flag that names the
configuration. Files are reached through an environment, so that what a command line answers is a
function of what it finds there. -/
namespace StoreBridge.CommandLine
open Document

/-- The text that says how the program is used. -/
def usage : String :=
  "usage: sqlite-provider [--config PATH] <command>\n" ++
  "\n" ++
  "commands:\n" ++
  "  store-type <Kind> [facet=value ...]         store type for a conceptual type\n" ++
  "  conceptual-type <store-type> [facet=value ...]  conceptual type for a store type\n" ++
  "  compile <plan.toml>                         compile a command tree\n" ++
  "  columns <db-path> <table>                   conceptual types of a table's columns"

/-- What a program finds around it. -/
structure Environment (m : Type → Type) where
  /-- The text of the default configuration, if there is one. -/
  defaultConfig : m (Option (Except Failure String))
  /-- The text of a file. -/
  text : String → m (Except Failure String)
  /-- The store that a file holds. -/
  store : String → m (Except Failure Store)

/-- The flag that names the configuration, when the path is an argument of its own. -/
def configFlag : String := "--config"

/-- The path in a flag that carries it. -/
def pathIn? (arg : String) : Option String :=
  let flag := (configFlag ++ "=").toList
  if flag.isPrefixOf arg.toList then some (String.ofList (arg.toList.drop flag.length)) else none

/-- The path of the configuration, which the last flag names, and the other arguments. -/
def splitConfig : List String → Except Failure (Option String × List String)
  | [] => .ok (none, [])
  | arg :: rest =>
    if arg = configFlag then
      match rest with
      | [] => .error .configPathMissing
      | path :: rest => do
        let (later, others) ← splitConfig rest
        return (later <|> some path, others)
    else do
      let (later, others) ← splitConfig rest
      match pathIn? arg with
      | some path => return (later <|> some path, others)
      | none => return (later, arg :: others)

/-- What a command asks for. -/
inductive Request where
  | help
  | storeType (kind : String) (assignments : List String)
  | conceptualType (declared : String) (assignments : List String)
  | compile (plan : String)
  | columns (store table : String)
deriving DecidableEq

/-- What the arguments ask for. -/
def Request.ofArguments? : List String → Option Request
  | [] => some .help
  | "store-type" :: kind :: assignments => some (.storeType kind assignments)
  | "conceptual-type" :: declared :: assignments => some (.conceptualType declared assignments)
  | ["compile", plan] => some (.compile plan)
  | ["columns", store, table] => some (.columns store table)
  | "help" :: _ => some .help
  | "--help" :: _ => some .help
  | "-h" :: _ => some .help
  | _ => none

/-- The store type for a kind with facets. -/
def storeTypeFor (kind : String) (assignments : List String) : Except Failure StoreType := do
  let kind ← Kind.read kind
  let facets ← Facets.assignAll {} assignments
  (← ConceptualType.make kind facets).storeType

/-- The conceptual type for a declared type with facets. -/
def conceptualTypeFor (declared : String) (assignments : List String) :
    Except Failure ConceptualType := do
  let t ← StoreType.ofDeclared declared
  let facets ← t.facets.assignAll assignments
  StoreType.conceptualType ⟨t.name, facets⟩

/-- The command tree that a text describes. -/
def planOfText (text : String) : Except Failure CommandTree :=
  match (Toml.read? text).bind (CommandTree.ofDocument? .tolerant) with
  | some tree => .ok tree
  | none => .error .badToml

/-- The configuration, from the path that is given, or else the default one. -/
def loadConfig {m : Type → Type} [Monad m] (env : Environment m) (path : Option String) :
    ExceptT Failure m Config := do
  match path with
  | some path => return ← Config.read (← ExceptT.mk (env.text path))
  | none =>
    match ← env.defaultConfig with
    | some contents => return ← Config.read (← contents)
    | none => return {}

/-- The store at a place. In memory there is an empty one. -/
def loadStore {m : Type → Type} [Monad m] (env : Environment m) (place : String) :
    ExceptT Failure m Store :=
  match Store.Location.ofText? place with
  | some .memory => return {}
  | some (.file path) => ExceptT.mk (env.store path)
  | none => throw (.store .notAStore)

/-- The answer to a request. -/
def answer {m : Type → Type} [Monad m] (env : Environment m) (form : DateTimeForm) :
    Request → ExceptT Failure m String
  | .help => return usage
  | .storeType kind assignments => do
    return Json.pretty (← storeTypeFor kind assignments).toDocument
  | .conceptualType declared assignments => do
    return Json.pretty (← conceptualTypeFor declared assignments).toDocument
  | .compile plan => do
    let tree ← planOfText (← ExceptT.mk (env.text plan))
    return Json.pretty (← tree.compile generate form).toDocument
  | .columns path table => do
    let store ← loadStore env path
    return Json.pretty (.list ((← store.columnTypes table).map (·.toDocument)))

/-- What a command line answers. -/
def run {m : Type → Type} [Monad m] (env : Environment m) (args : List String) :
    ExceptT Failure m String := do
  let (path, args) ← splitConfig args
  let config ← loadConfig env path
  let form ← DateTimeForm.ofToken config.manifestToken
  match Request.ofArguments? args with
  | some request => answer env form request
  | none => throw (.unknownCommandLine usage)

/-- What a run of the program leaves: its status, and what it has written. -/
structure Outcome where
  status : UInt32
  output : String
  errors : String
deriving DecidableEq

/-- The outcome of an answer. -/
def outcome : Except Failure String → Outcome
  | .ok s => ⟨0, s ++ "\n", ""⟩
  | .error failure => ⟨1, "", "error: " ++ failure.message ++ "\n"⟩

end StoreBridge.CommandLine
