import StoreBridge.Kind
import StoreBridge.Text.Digit

/-! What can go wrong. A failure is a cause together with what was found; its category and its
wording are functions of it. Failures of the readers of documents and configuration, of files and of
the store are told apart by category alone. -/
namespace StoreBridge
open Text

/-- Why a catalog entry refuses a facet. -/
inductive FacetFault where
  | notDeclared | constant | outOfRange
deriving DecidableEq

/-- The wording of a refusal. -/
def FacetFault.text : FacetFault → String
  | notDeclared => "not declared"
  | constant => "constant"
  | outOfRange => "out of range"

/-- Why the store refuses a statement. -/
inductive StoreFault where
  | unreadableStatement
  | noSuchTable (name : String)
  | noSuchColumn (name : String)
  | notNull (column : String)
  | duplicateKey
  | badRowId
  | rowsReturned
  | badDefinition (table : String)
  | notAStore
  | noSuchFunction (name : String)
  | noSuchCollation (name : String)
  /-- A check does not hold. -/
  | checkFailed (table : String)
  /-- A reference to a row that is not there. -/
  | referenceFailed (table : String)
  /-- A statement is beyond a limit of the store. -/
  | tooLarge
  /-- The result of a calculation is out of range. -/
  | outOfRange
  | badArgument
  /-- The table or the column cannot be changed. -/
  | notChangeable (name : String)
deriving DecidableEq

/-- The causes of failure. -/
inductive Failure where
  | unknownKind (text : String)
  | assignmentWithoutValue (assignment : String)
  | unknownFacet (key : String)
  | badFacetValue (value key : String)
  | badFacetFlag (value key : String)
  | facetNotApplicable (facet : String) (kind : Kind)
  | zeroMaxLength (kind : Kind)
  | zeroPrecision
  | scaleExceedsPrecision (scale precision : Nat)
  | scaleExceedsPrecisionOf (scale precision : Nat) (type : String)
  | unreadableDeclaration (declared : String)
  | typeArgumentOutOfRange (argument declared : String)
  | facetRefused (facet : String) (fault : FacetFault) (storeType : String)
  | emptyStoreTypeName
  | noStoreType (type : String) (kind : Kind)
  | unknownStoreType (name : String)
  | storeTypeMissing (name catalog : String)
  | storeTypeRepeated (name : String)
  | maxLengthUndeclared (name : String)
  | unknownToken (token : String)
  | unknownInformation (name : String)
  | emptyParameterName
  | malformedParameterName (name : String)
  | repeatedParameter (name : String)
  | undeclaredParameter (name : String)
  | unknownParameter (name : String)
  | emptyIdentifier
  | emptyUpdate (table : String)
  | noLiteral (value : String)
  | ticksOverflow (moment : String)
  | generatedParameters (command : String)
  | storedProcedure (text : String)
  | unsupported (what : String)
  | noSuchTable (name : String)
  | configPathMissing
  | unknownCommandLine (usage : String)
  | badJson
  | badToml
  | badConfig
  | unreadableFile
  | store (fault : StoreFault)
deriving DecidableEq

namespace Failure

/-- The categories of failure. -/
inductive Category where
  | invalidArgument | unsupportedType | invalidOperation | providerIncompatible
  | config | database | io | json | toml
deriving DecidableEq

/-- The category of a failure. -/
def category : Failure → Category
  | unknownKind _ | noStoreType .. | unknownStoreType _ | unsupported _ => .unsupportedType
  | generatedParameters _ | storedProcedure _ => .invalidOperation
  | storeTypeMissing .. | storeTypeRepeated _ | maxLengthUndeclared _ | unknownInformation _ =>
    .providerIncompatible
  | badJson => .json
  | badToml => .toml
  | badConfig => .config
  | unreadableFile => .io
  | store _ => .database
  | _ => .invalidArgument

/-- What a message of the category begins with. -/
def Category.heading : Category → String
  | invalidArgument => "Invalid argument: "
  | unsupportedType => "Unsupported type: "
  | invalidOperation => "Invalid operation: "
  | providerIncompatible => "Provider incompatible: "
  | config => "Configuration error: "
  | database => "Database error: "
  | io => "I/O error: "
  | json => "JSON error: "
  | toml => "TOML error: "

/-- The wording of a fault of the store. -/
def faultText : StoreFault → String
  | .unreadableStatement => "the statement cannot be read"
  | .noSuchTable name => "no such table: " ++ name
  | .noSuchColumn name => "no such column: " ++ name
  | .notNull column => "column " ++ column ++ " must not be null"
  | .duplicateKey => "the key is not unique"
  | .badRowId => "the row id is not an integer"
  | .rowsReturned => "the statement returned rows"
  | .badDefinition table => "the definition of table " ++ table ++ " is not valid"
  | .notAStore => "the file cannot be opened as a store"
  | .noSuchFunction name => "no such function: " ++ name
  | .noSuchCollation name => "no such collation: " ++ name
  | .checkFailed table => "a check of table " ++ table ++ " does not hold"
  | .referenceFailed table => "a row of table " ++ table ++ " is referred to and missing"
  | .tooLarge => "the statement is too large"
  | .outOfRange => "a number is out of range"
  | .badArgument => "a function cannot take its arguments"
  | .notChangeable name => name ++ " cannot be changed"

/-- The wording of a failure, without the heading of its category. -/
def detail : Failure → String
  | unknownKind text => "Unknown primitive kind '" ++ text ++ "'"
  | assignmentWithoutValue a => "Facet assignment '" ++ a ++ "' must have the form name=value"
  | unknownFacet key => "Unknown facet '" ++ key ++ "'"
  | badFacetValue value key => "Invalid value '" ++ value ++ "' for facet '" ++ key ++ "'"
  | badFacetFlag value key =>
    "Facet '" ++ key ++ "' expects true or false, got '" ++ value ++ "'"
  | facetNotApplicable facet kind =>
    "Facet '" ++ facet ++ "' does not apply to type " ++ kind.name
  | zeroMaxLength kind => "MaxLength of " ++ kind.name ++ " must be at least 1"
  | zeroPrecision => "Precision must be at least 1"
  | scaleExceedsPrecision s p =>
    "Scale " ++ naturalText s ++ " exceeds precision " ++ naturalText p
  | scaleExceedsPrecisionOf s p type =>
    "Scale " ++ naturalText s ++ " exceeds precision " ++ naturalText p ++ " for " ++ type
  | unreadableDeclaration declared => "Cannot parse declared type '" ++ declared ++ "'"
  | typeArgumentOutOfRange argument declared =>
    "Type argument '" ++ argument ++ "' is out of range in '" ++ declared ++ "'"
  | facetRefused facet fault storeType =>
    "Facet '" ++ facet ++ "' is " ++ fault.text ++ " for store type '" ++ storeType ++ "'"
  | emptyStoreTypeName => "Store type name must not be empty"
  | noStoreType type kind =>
    "There is no store type corresponding to the EDM type '" ++ type ++
      "' of primitive type '" ++ kind.name ++ "'."
  | unknownStoreType name => "The underlying provider does not support the type '" ++ name ++ "'."
  | storeTypeMissing name catalog =>
    "Store type '" ++ name ++ "' is missing from the " ++ catalog ++ " manifest"
  | storeTypeRepeated name => "Store type '" ++ name ++ "' is declared twice"
  | maxLengthUndeclared name => "Store type '" ++ name ++ "' declares no MaxLength facet"
  | unknownToken token =>
    "Unknown manifest token '" ++ token ++ "': expected Ticks or ISO8601"
  | unknownInformation name =>
    "The provider returned null for the informationType '" ++ name ++ "'."
  | emptyParameterName => "Parameter name must not be empty"
  | malformedParameterName name =>
    "Parameter name '" ++ name ++ "' must start with a letter or underscore and contain only " ++
      "letters, digits and underscores"
  | repeatedParameter name => "Parameter '" ++ name ++ "' is declared more than once"
  | undeclaredParameter name => "Parameter '" ++ name ++ "' is referenced but not declared"
  | unknownParameter name => "Command has no parameter named '" ++ name ++ "'"
  | emptyIdentifier => "Identifier must not be empty"
  | emptyUpdate table => "Update of " ++ table ++ " assigns no columns"
  | noLiteral value => value ++ " has no SQL literal"
  | ticksOverflow moment => "Date/time " ++ moment ++ " overflows ticks"
  | generatedParameters command =>
    "SQL generation produced parameters for a " ++ command ++ " command; generated parameters " ++
      "are only permitted for insert, update and delete"
  | storedProcedure text => "SQLite cannot execute stored procedure '" ++ text ++ "'"
  | unsupported what => what
  | noSuchTable name => "Table '" ++ name ++ "' does not exist"
  | configPathMissing => "--config requires a path"
  | unknownCommandLine usage => "unrecognised command line\n" ++ usage
  | badJson => "the document does not have the expected form"
  | badToml => "the document does not have the expected form"
  | badConfig => "the configuration does not have the expected form"
  | unreadableFile => "the file cannot be read"
  | store fault => faultText fault

/-- The whole message: the heading of the category and the wording of the cause. -/
def message (f : Failure) : String :=
  f.category.heading ++ f.detail

end Failure
end StoreBridge
