import StoreBridge.Binary64
import StoreBridge.Binary64.Arithmetic
import StoreBridge.Binary64.Shortest
import StoreBridge.Binary64.TwiceRounded
import StoreBridge.Binary80
import StoreBridge.Catalog
import StoreBridge.Catalog.Builtin
import StoreBridge.Catalog.Record
import StoreBridge.Command
import StoreBridge.Command.Execution
import StoreBridge.Command.Generation
import StoreBridge.Command.Record
import StoreBridge.Command.Script
import StoreBridge.CommandLine
import StoreBridge.CommandTree
import StoreBridge.CommandTree.Record
import StoreBridge.ConceptualType
import StoreBridge.ConceptualType.Record
import StoreBridge.Config
import StoreBridge.DateTime
import StoreBridge.DateTime.Text
import StoreBridge.DateTime.Ticks
import StoreBridge.DateTimeForm
import StoreBridge.Decimal
import StoreBridge.Document
import StoreBridge.Document.Json
import StoreBridge.Document.Json.Reader
import StoreBridge.Document.Record
import StoreBridge.Document.Toml
import StoreBridge.Document.Toml.Entry
import StoreBridge.Document.Toml.Node
import StoreBridge.Document.Toml.Number
import StoreBridge.Document.Toml.Word
import StoreBridge.Facets
import StoreBridge.Facets.Assignment
import StoreBridge.Facets.Record
import StoreBridge.Failure
import StoreBridge.Guid
import StoreBridge.Information
import StoreBridge.Integer64
import StoreBridge.Kind
import StoreBridge.Main
import StoreBridge.Mapping
import StoreBridge.Parameter
import StoreBridge.Parameter.Record
import StoreBridge.Proofs.BoundValues
import StoreBridge.Proofs.CatalogAdmission
import StoreBridge.Proofs.CatalogIndex
import StoreBridge.Proofs.CompileOutcome
import StoreBridge.Proofs.CompiledParameters
import StoreBridge.Proofs.ConnectionLookup
import StoreBridge.Proofs.DateCounting
import StoreBridge.Proofs.Deciding
import StoreBridge.Proofs.DecimalText
import StoreBridge.Proofs.DeclarationGrammar
import StoreBridge.Proofs.DeclarationMeaning
import StoreBridge.Proofs.DeclarationReading
import StoreBridge.Proofs.DeclarationStability
import StoreBridge.Proofs.DigitReading
import StoreBridge.Proofs.FacetAssignment
import StoreBridge.Proofs.FacetRefusal
import StoreBridge.Proofs.FacetValue
import StoreBridge.Proofs.FlagPlacement
import StoreBridge.Proofs.GeneratedStatement
import StoreBridge.Proofs.GeneratedText
import StoreBridge.Proofs.GenerationInputs
import StoreBridge.Proofs.InstantOrder
import StoreBridge.Proofs.InstantReading
import StoreBridge.Proofs.JsonReading
import StoreBridge.Proofs.LiteralMeaning
import StoreBridge.Proofs.NameClash
import StoreBridge.Proofs.NameOrder
import StoreBridge.Proofs.OwnNames
import StoreBridge.Proofs.ParameterDerivation
import StoreBridge.Proofs.PlaceholderBinding
import StoreBridge.Proofs.RecordReading
import StoreBridge.Proofs.Rounding
import StoreBridge.Proofs.ScriptRuns
import StoreBridge.Proofs.SlotBinding
import StoreBridge.Proofs.Splitting
import StoreBridge.Proofs.StatementReading
import StoreBridge.Proofs.StatementRequest
import StoreBridge.Proofs.StatementTokens
import StoreBridge.Proofs.StoreTypeMeaning
import StoreBridge.Proofs.StoreTypeReturn
import StoreBridge.Proofs.TermReading
import StoreBridge.Proofs.TickCounting
import StoreBridge.Proofs.TokenReading
import StoreBridge.Proofs.TreeAcceptance
import StoreBridge.Proofs.Trimming
import StoreBridge.Proofs.TypeFormation
import StoreBridge.Proofs.TypeMapping
import StoreBridge.Sql.Datum
import StoreBridge.Sql.Definition
import StoreBridge.Sql.Definition.Reader
import StoreBridge.Sql.Expression
import StoreBridge.Sql.Expression.Reader
import StoreBridge.Sql.Instruction
import StoreBridge.Sql.Instruction.Reader
import StoreBridge.Sql.Quoted
import StoreBridge.Sql.Reader
import StoreBridge.Sql.Request
import StoreBridge.Sql.Statement
import StoreBridge.Sql.Token
import StoreBridge.Store
import StoreBridge.Store.Admission
import StoreBridge.Store.Affinity
import StoreBridge.Store.Alteration
import StoreBridge.Store.Answer
import StoreBridge.Store.Change
import StoreBridge.Store.Collation
import StoreBridge.Store.ColumnType
import StoreBridge.Store.Conversion
import StoreBridge.Store.Creation
import StoreBridge.Store.DeclaredType
import StoreBridge.Store.Dependency
import StoreBridge.Store.Description
import StoreBridge.Store.Evaluation
import StoreBridge.Store.File
import StoreBridge.Store.ForeignKey
import StoreBridge.Store.Function
import StoreBridge.Store.Hits
import StoreBridge.Store.Location
import StoreBridge.Store.Lookup
import StoreBridge.Store.Numeral
import StoreBridge.Store.Outline
import StoreBridge.Store.Path
import StoreBridge.Store.Pattern
import StoreBridge.Store.Plan
import StoreBridge.Store.Table
import StoreBridge.StoreType
import StoreBridge.StoreType.Declaration
import StoreBridge.StoreType.Record
import StoreBridge.Text.Blank
import StoreBridge.Text.Digit
import StoreBridge.Text.Letter
import StoreBridge.Text.Split
import StoreBridge.Text.Utf8
import StoreBridge.Value
import StoreBridge.Value.Record
