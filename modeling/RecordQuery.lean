import RecordQuery.Calendar.Date
import RecordQuery.Calendar.Duration
import RecordQuery.Calendar.Loose
import RecordQuery.Calendar.Reader
import RecordQuery.Calendar.Time
import RecordQuery.Coercion
import RecordQuery.Compilation.Filter
import RecordQuery.Compilation.Sort
import RecordQuery.Declaration
import RecordQuery.Descriptor
import RecordQuery.Descriptor.Reader
import RecordQuery.Double.Arithmetic
import RecordQuery.Double.Basic
import RecordQuery.Double.Reader
import RecordQuery.Double.Text
import RecordQuery.Engine
import RecordQuery.Explanation
import RecordQuery.Json.Basic
import RecordQuery.Json.Document
import RecordQuery.Json.Text
import RecordQuery.JsonPath
import RecordQuery.Kind
import RecordQuery.Operator
import RecordQuery.Options
import RecordQuery.Options.Reader
import RecordQuery.Path
import RecordQuery.Predicate
import RecordQuery.QueryError
import RecordQuery.Record
import RecordQuery.Record.Layout
import RecordQuery.Registry
import RecordQuery.Scalar
import RecordQuery.Scalar.Tagged
import RecordQuery.Schema
import RecordQuery.SortChain
import RecordQuery.Table
import RecordQuery.Text.Ascii
import RecordQuery.Text.Blank
import RecordQuery.Text.CodePoints
import RecordQuery.Text.Hexadecimal
import RecordQuery.Text.LowerCase
import RecordQuery.Text.Pieces
import RecordQuery.Text.Property.Alphanumeric
import RecordQuery.Text.Property.Casing
import RecordQuery.Text.Property.Identifier
import RecordQuery.TextSearch
import RecordQuery.Uuid
import RecordQuery.Yaml.Basic
import RecordQuery.Yaml.Document
import RecordQuery.Yaml.Scalar
import RecordQuery.Yaml.Token
import RecordQuery.Proofs.Outcome
import RecordQuery.Proofs.Resolution
import RecordQuery.Proofs.Compilation
import RecordQuery.Proofs.Typing
import RecordQuery.Proofs.CompiledTyping
import RecordQuery.Proofs.Leniency
import RecordQuery.Proofs.Registry
import RecordQuery.Proofs.Spelling
import RecordQuery.Proofs.Policy
import RecordQuery.Proofs.Rounding
import RecordQuery.Proofs.KeyOrder
import RecordQuery.Proofs.Conformity
import RecordQuery.Proofs.StableSort
import RecordQuery.Proofs.Sorting
import RecordQuery.Proofs.Quantifiers
import RecordQuery.Proofs.Respelling
import RecordQuery.Proofs.Selection
import RecordQuery.Proofs.Paging
import RecordQuery.Proofs.Reconfiguration
import RecordQuery.Proofs.Aliases
import RecordQuery.Proofs.Complements
import RecordQuery.Proofs.Targets
import RecordQuery.Proofs.Operands
import RecordQuery.Proofs.OperandSets
import RecordQuery.Proofs.OrderAgreement
import RecordQuery.Proofs.MissingValues
import RecordQuery.Proofs.NestedPolicy
import RecordQuery.Proofs.DoubleValue
import RecordQuery.Proofs.IntegerOperands
import RecordQuery.Proofs.Nullability
import RecordQuery.Proofs.Derivation
import RecordQuery.Proofs.Identifiers
import RecordQuery.Proofs.InPlace
import RecordQuery.Proofs.DeclaredContent
import RecordQuery.Proofs.Comparability
import RecordQuery.Proofs.FinalSigma
import RecordQuery.Proofs.WordSearch
import RecordQuery.Proofs.IgnoringCase
import RecordQuery.Proofs.RoundingError
import RecordQuery.Proofs.DurationText
import RecordQuery.Proofs.DurationSign
import RecordQuery.Proofs.DurationRange
import RecordQuery.Proofs.Walks
import RecordQuery.Proofs.CanonicalPaths
import RecordQuery.Proofs.OperatorGrammar
import RecordQuery.Proofs.MemberNames
import RecordQuery.Proofs.Accumulation
import RecordQuery.Proofs.JsonGrammar
import RecordQuery.Proofs.NumberLiterals
import RecordQuery.Proofs.DocumentMeaning
import RecordQuery.Proofs.DescriptorFields
import RecordQuery.Proofs.JsonWriter
import RecordQuery.Proofs.WrittenDescriptors
import RecordQuery.Proofs.DescriptorTexts
import RecordQuery.Proofs.DescriptorShapes
import RecordQuery.Proofs.Constants
import RecordQuery.Proofs.DerivedTables
import RecordQuery.Proofs.DateAgreement
import RecordQuery.Proofs.DocumentPaths
