import StoreBridge.ConceptualType
import StoreBridge.Value

/-! Parameters of commands. What is known of a parameter beside its name and value, its type in the
interface of the store, its size and whether it may be null, follows from its conceptual type and
from the direction in which it passes values. -/
namespace StoreBridge
open Text

/-- The direction in which a parameter passes values. -/
inductive Direction where
  | input | output | inputOutput | returnValue
deriving DecidableEq

namespace Direction

/-- Every direction once. -/
def all : List Direction :=
  [input, output, inputOutput, returnValue]

/-- The word for the direction of a parameter. -/
def word : Direction → String
  | input => "input"
  | output => "output"
  | inputOutput => "input_output"
  | returnValue => "return_value"

/-- The word for the direction in the signature of a routine. -/
def signatureWord : Direction → String
  | input => "in"
  | output => "out"
  | inputOutput => "in_out"
  | returnValue => "return"

/-- The direction with this word. -/
def ofWord? (s : String) : Option Direction :=
  all.find? fun d => d.word == s

/-- The direction with this word in a signature. -/
def ofSignatureWord? (s : String) : Option Direction :=
  all.find? fun d => d.signatureWord == s

/-- A value is sent to the store. -/
def acceptsInput : Direction → Bool
  | input | inputOutput => true
  | output | returnValue => false

end Direction

/-- The types of parameters in the interface of the store. -/
inductive DbType where
  | ansiString | ansiStringFixedLength | string | stringFixedLength | binary | boolean | byte
  | sByte | int16 | int32 | int64 | single | double | decimal | guid | dateTime | dateTimeOffset
  | time
deriving DecidableEq

namespace DbType

/-- Every type once. -/
def all : List DbType :=
  [ansiString, ansiStringFixedLength, string, stringFixedLength, binary, boolean, byte, sByte,
    int16, int32, int64, single, double, decimal, guid, dateTime, dateTimeOffset, time]

/-- The spelling of a type. -/
def name : DbType → String
  | ansiString => "AnsiString"
  | ansiStringFixedLength => "AnsiStringFixedLength"
  | string => "String"
  | stringFixedLength => "StringFixedLength"
  | binary => "Binary"
  | boolean => "Boolean"
  | byte => "Byte"
  | sByte => "SByte"
  | int16 => "Int16"
  | int32 => "Int32"
  | int64 => "Int64"
  | single => "Single"
  | double => "Double"
  | decimal => "Decimal"
  | guid => "Guid"
  | dateTime => "DateTime"
  | dateTimeOffset => "DateTimeOffset"
  | time => "Time"

/-- The type with this spelling. -/
def ofName? (s : String) : Option DbType :=
  all.find? fun t => t.name == s

/-- The type of texts. -/
def ofText (unicode fixedLength : Bool) : DbType :=
  match unicode, fixedLength with
  | true, true => stringFixedLength
  | true, false => string
  | false, true => ansiStringFixedLength
  | false, false => ansiString

end DbType

/-- The size of a parameter that may be given any text or blob. -/
def greatestSize : UInt32 := 2147483647

namespace ConceptualType

/-- The type of a parameter of the conceptual type. -/
def dbType (t : ConceptualType) : DbType :=
  match t.kind with
  | .binary => .binary
  | .string => .ofText (t.facets.unicode.getD true) (t.facets.fixedLength.getD false)
  | .boolean => .boolean
  | .byte => .byte
  | .sByte => .sByte
  | .int16 => .int16
  | .int32 => .int32
  | .int64 => .int64
  | .single => .single
  | .double => .double
  | .decimal => .decimal
  | .guid => .guid
  | .dateTime => .dateTime
  | .dateTimeOffset => .dateTimeOffset
  | .time => .time

/-- The length of the type, and the greatest size for a parameter that must have room for any. -/
def lengthSize (t : ConceptualType) (needsRoom : Bool) : Option UInt32 :=
  match t.facets.maxLengthValue? with
  | some n => some n
  | none => if needsRoom then some greatestSize else none

/-- The size of a parameter of the conceptual type: only texts and blobs have one. -/
def parameterSize (t : ConceptualType) (needsRoom : Bool) : Option UInt32 :=
  if t.kind.isLengthBearing then t.lengthSize needsRoom else none

end ConceptualType

/-- A parameter of a command. -/
structure Parameter where
  name : String
  direction : Direction
  dbType : DbType
  size : Option UInt32
  isNullable : Bool
  value : Value
deriving DecidableEq

namespace Parameter

/-- A name begins with a letter or an underscore and goes on with letters, digits and
underscores, all of ASCII. -/
def isName : List Char → Bool
  | [] => false
  | c :: cs => (isLetter c || c == '_') && cs.all fun d => isLetter d || isDigit d || d == '_'

/-- Refuses what is no name. -/
def checkName (name : String) : Except Failure Unit :=
  if name.isEmpty then .error .emptyParameterName
  else if isName name.toList then .ok ()
  else .error (.malformedParameterName name)

/-- The parameter that its type and direction make it. One that passes values back may be null and
has room for any. -/
def derived (name : String) (t : ConceptualType) (direction : Direction) (value : Value) :
    Parameter where
  name := name
  direction := direction
  dbType := t.dbType
  size := t.parameterSize (direction != .input)
  isNullable := direction != .input || t.isNullable
  value := value

/-- The parameter with this name, if it is a name. -/
def create (name : String) (t : ConceptualType) (direction : Direction) (value : Value) :
    Except Failure Parameter := do
  checkName name
  return derived name t direction value

end Parameter
end StoreBridge
