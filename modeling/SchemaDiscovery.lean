import SchemaDiscovery.Catalog.Basic
import SchemaDiscovery.Catalog.Candidates
import SchemaDiscovery.Catalog.Implementations
import SchemaDiscovery.Catalog.Lineage
import SchemaDiscovery.Catalog.Substitution
import SchemaDiscovery.Classification
import SchemaDiscovery.CommandLine.Arguments
import SchemaDiscovery.CommandLine.Files
import SchemaDiscovery.CommandLine.Run
import SchemaDiscovery.CommandLine.Table
import SchemaDiscovery.Config
import SchemaDiscovery.Decimal.Binary64
import SchemaDiscovery.Decimal.Numeral
import SchemaDiscovery.Decimal.Range
import SchemaDiscovery.Decimal.Shortest
import SchemaDiscovery.DefaultValue
import SchemaDiscovery.Definition.Basic
import SchemaDiscovery.Definition.Directive
import SchemaDiscovery.Definition.Literal
import SchemaDiscovery.Definition.Render
import SchemaDiscovery.Definition.Scalar
import SchemaDiscovery.Descriptor.Assembly
import SchemaDiscovery.Descriptor.Decoding
import SchemaDiscovery.Descriptor.Document
import SchemaDiscovery.Descriptor.Encoding
import SchemaDiscovery.Descriptor.Resolver
import SchemaDiscovery.Descriptor.Tag
import SchemaDiscovery.Descriptor.Type
import SchemaDiscovery.Descriptor.TypeKey
import SchemaDiscovery.Descriptor.TypeUse
import SchemaDiscovery.Discovery.Agenda
import SchemaDiscovery.Discovery.Conversion
import SchemaDiscovery.Discovery.Emission
import SchemaDiscovery.Discovery.Field
import SchemaDiscovery.Discovery.Naming
import SchemaDiscovery.Document.Basic
import SchemaDiscovery.Document.Layout
import SchemaDiscovery.Error
import SchemaDiscovery.Holder
import SchemaDiscovery.Json.Basic
import SchemaDiscovery.Json.Printer
import SchemaDiscovery.Json.Reader
import SchemaDiscovery.Json.Token
import SchemaDiscovery.Main
import SchemaDiscovery.Metadata.Basic
import SchemaDiscovery.Metadata.Storage
import SchemaDiscovery.Methods.Accessor
import SchemaDiscovery.Methods.Eligibility
import SchemaDiscovery.Methods.Inherited
import SchemaDiscovery.Name
import SchemaDiscovery.Ordered
import SchemaDiscovery.Proofs.Build.Arrival
import SchemaDiscovery.Proofs.Build.Completion
import SchemaDiscovery.Proofs.Build.Depiction
import SchemaDiscovery.Proofs.Build.Emission
import SchemaDiscovery.Proofs.Build.Failure
import SchemaDiscovery.Proofs.Build.FixedPoint
import SchemaDiscovery.Proofs.Build.History
import SchemaDiscovery.Proofs.Build.Moments
import SchemaDiscovery.Proofs.Build.Provenance
import SchemaDiscovery.Proofs.Build.Record
import SchemaDiscovery.Proofs.Build.Rediscovery
import SchemaDiscovery.Proofs.Build.Restriction
import SchemaDiscovery.Proofs.Build.Spelling
import SchemaDiscovery.Proofs.Build.Step
import SchemaDiscovery.Proofs.Catalog.Ascent
import SchemaDiscovery.Proofs.Catalog.Candidates
import SchemaDiscovery.Proofs.Catalog.Classification
import SchemaDiscovery.Proofs.Catalog.Lineage
import SchemaDiscovery.Proofs.Catalog.Mention
import SchemaDiscovery.Proofs.Catalog.NearestInterface
import SchemaDiscovery.Proofs.Catalog.Restriction
import SchemaDiscovery.Proofs.Catalog.Scan
import SchemaDiscovery.Proofs.Catalog.Subtype
import SchemaDiscovery.Proofs.Decimal.Rounding
import SchemaDiscovery.Proofs.Default.Agreement
import SchemaDiscovery.Proofs.Default.Conformance
import SchemaDiscovery.Proofs.Default.Integer
import SchemaDiscovery.Proofs.Default.Legality
import SchemaDiscovery.Proofs.Default.Printing
import SchemaDiscovery.Proofs.Default.Scalar
import SchemaDiscovery.Proofs.Definition.Constant
import SchemaDiscovery.Proofs.Definition.Description
import SchemaDiscovery.Proofs.Definition.Escape
import SchemaDiscovery.Proofs.Definition.Grammar
import SchemaDiscovery.Proofs.Definition.Lexeme
import SchemaDiscovery.Proofs.Definition.Numeral
import SchemaDiscovery.Proofs.Definition.Parts
import SchemaDiscovery.Proofs.Definition.Printing
import SchemaDiscovery.Proofs.Definition.Skeleton
import SchemaDiscovery.Proofs.Descriptor.Fields
import SchemaDiscovery.Proofs.Descriptor.Keys
import SchemaDiscovery.Proofs.Descriptor.RoundTrip
import SchemaDiscovery.Proofs.Discovery.Adoption
import SchemaDiscovery.Proofs.Discovery.Agenda
import SchemaDiscovery.Proofs.Discovery.Denotation
import SchemaDiscovery.Proofs.Discovery.Failure
import SchemaDiscovery.Proofs.Discovery.FieldNames
import SchemaDiscovery.Proofs.Discovery.Levels
import SchemaDiscovery.Proofs.Discovery.Links
import SchemaDiscovery.Proofs.Discovery.Nullability
import SchemaDiscovery.Proofs.Discovery.Orderly
import SchemaDiscovery.Proofs.Discovery.Outline
import SchemaDiscovery.Proofs.Discovery.References
import SchemaDiscovery.Proofs.Discovery.Restriction
import SchemaDiscovery.Proofs.Discovery.Signature
import SchemaDiscovery.Proofs.Discovery.Termination
import SchemaDiscovery.Proofs.Failure
import SchemaDiscovery.Proofs.Json.Integer
import SchemaDiscovery.Proofs.Json.Numeral
import SchemaDiscovery.Proofs.Json.Sized
import SchemaDiscovery.Proofs.Json.Spelling
import SchemaDiscovery.Proofs.Metadata.Precedence
import SchemaDiscovery.Proofs.Methods.Composition
import SchemaDiscovery.Proofs.Methods.Eligibility
import SchemaDiscovery.Proofs.Methods.Nearest
import SchemaDiscovery.Proofs.Methods.Setters
import SchemaDiscovery.Proofs.Outcome
import SchemaDiscovery.Proofs.Registry.Entries
import SchemaDiscovery.Proofs.Registry.Growth
import SchemaDiscovery.Proofs.Registry.Lifecycle
import SchemaDiscovery.Proofs.Schema.Bindings
import SchemaDiscovery.Proofs.Schema.Closure
import SchemaDiscovery.Proofs.Schema.Conformance
import SchemaDiscovery.Proofs.Schema.Contribution
import SchemaDiscovery.Proofs.Schema.Defaults
import SchemaDiscovery.Proofs.Schema.Distinct
import SchemaDiscovery.Proofs.Schema.Extension
import SchemaDiscovery.Proofs.Schema.Families
import SchemaDiscovery.Proofs.Schema.Holder
import SchemaDiscovery.Proofs.Schema.Identity
import SchemaDiscovery.Proofs.Schema.Implementations
import SchemaDiscovery.Proofs.Schema.Inheritance
import SchemaDiscovery.Proofs.Schema.InputFields
import SchemaDiscovery.Proofs.Schema.Interfaces
import SchemaDiscovery.Proofs.Schema.Linkage
import SchemaDiscovery.Proofs.Schema.Naming
import SchemaDiscovery.Proofs.Schema.Redeclaration
import SchemaDiscovery.Proofs.Schema.Unmentioned
import SchemaDiscovery.Proofs.Text.Word
import SchemaDiscovery.Registry
import SchemaDiscovery.Schema
import SchemaDiscovery.Text.Blank
import SchemaDiscovery.Text.Capital
import SchemaDiscovery.Text.Columns
import SchemaDiscovery.Text.Control
import SchemaDiscovery.Text.Ligature
import SchemaDiscovery.Text.Pictograph
import SchemaDiscovery.Text.Quoted
import SchemaDiscovery.Text.Span
import SchemaDiscovery.Text.Width
import SchemaDiscovery.Text.Word
import SchemaDiscovery.Toml.Document
import SchemaDiscovery.Toml.Number
import SchemaDiscovery.Toml.Reader
import SchemaDiscovery.Toml.Scalar
