import StoreBridge.Document.Record
import StoreBridge.Document.Toml
import StoreBridge.Failure
import StoreBridge.Text.Blank
import StoreBridge.Text.Letter
import StoreBridge.Text.Split

/-! The configuration of the provider. The manifest token is stated outright, or by a key of a
connection string, or left to the default. -/
namespace StoreBridge
open Text

/-- The value of a key in a connection string: pairs with semicolons between, of which the first
with the key counts, in any case and with blanks around keys and values. -/
def connectionStringValue (text key : String) : Option String :=
  let pairs := (splitAt ';' text.toList).filterMap (splitOnce '=')
  (pairs.find? fun (k, _) => sameName (String.ofList (trimChars k)) key).map fun (_, v) =>
    String.ofList (trimChars v)

/-- What a configuration states. -/
structure Config where
  dateTimeFormat : Option String := none
  connectionString : Option String := none
  logFilter : Option String := none
deriving DecidableEq

namespace Config

/-- The token when nothing selects one. -/
def defaultToken : String := "ISO8601"

/-- The key of connection strings that selects the token. -/
def tokenKey : String := "DateTimeFormat"

/-- The manifest token that the configuration selects. -/
def manifestToken (c : Config) : String :=
  ((c.dateTimeFormat <|> c.connectionString.bind (connectionStringValue · tokenKey)).getD
    defaultToken)

open Document

/-- The two texts of the provider's part. -/
def providerOfDocument? (d : Document) : Option (Option String × Option String) := do
  let [form, connection] ← d.fields? ["date_time_format", "connection_string"] 2 false | none
  return (← optional? text? form, ← optional? text? connection)

/-- The filter of the logging part. -/
def loggingOfDocument? (d : Document) : Option (Option String) := do
  let [filter] ← d.fields? ["filter"] 1 false | none
  optional? text? filter

/-- The configuration that a record is. -/
def ofDocument? (d : Document) : Option Config := do
  let [provider, logging] ← d.fields? ["provider", "logging"] 2 false | none
  let provider ← optional? providerOfDocument? provider
  let logging ← optional? loggingOfDocument? logging
  let (form, connection) := provider.getD (none, none)
  return ⟨form, connection, logging.join⟩

/-- The configuration that a text is. -/
def read (text : String) : Except Failure Config :=
  match (Toml.read? text).bind ofDocument? with
  | some c => .ok c
  | none => .error .badConfig

end Config
end StoreBridge
