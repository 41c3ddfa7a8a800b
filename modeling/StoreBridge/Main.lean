import StoreBridge.Command.Execution
import StoreBridge.CommandLine
import StoreBridge.Store.File

/-! The program: it runs the command line in the environment of the process. -/
namespace StoreBridge.CommandLine

/-- The octets of a file, if it can be read. -/
def readOctets? (path : String) : IO (Option ByteArray) := do
  try return some (← IO.FS.readBinFile path)
  catch _ => return none

/-- The text of a file. -/
def readText (path : String) : IO (Except Failure String) := do
  match (← readOctets? path).bind String.fromUTF8? with
  | some contents => return .ok contents
  | none => return .error .unreadableFile

/-- The store that a file holds. -/
def readStore (path : String) : IO (Except Failure Store) := do
  match ← readOctets? path with
  | some octets => return Command.fromStore (Store.ofFile octets)
  | none => return .error (.store .notAStore)

/-- The directory of configurations. -/
def configDirectory? : IO (Option String) := do
  match ← IO.getEnv "XDG_CONFIG_HOME" with
  | some path => if path.startsWith "/" then return some path
  | none => pure ()
  return (← IO.getEnv "HOME").map (· ++ "/.config")

/-- The default configuration, if there is one. -/
def readDefaultConfig : IO (Option (Except Failure String)) := do
  match ← configDirectory? with
  | none => return none
  | some directory =>
    let path := directory ++ "/sqlite-provider/config.toml"
    match ← readOctets? path with
    | none => return none
    | some _ => return some (← readText path)

/-- The environment of the process. -/
def processEnvironment : Environment IO where
  defaultConfig := readDefaultConfig
  text := readText
  store := readStore

end StoreBridge.CommandLine

open StoreBridge.CommandLine in
/-- Runs the command line and reports its outcome. -/
def main (args : List String) : IO UInt32 := do
  let result := outcome (← (run processEnvironment args).run)
  IO.print result.output
  IO.eprint result.errors
  return result.status
