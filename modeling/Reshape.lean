import Reshape.Capability
import Reshape.Capability.Collection
import Reshape.Capability.Numeral
import Reshape.Command
import Reshape.Command.Arguments
import Reshape.Decimal
import Reshape.Double
import Reshape.Error
import Reshape.Extraction
import Reshape.Extractor
import Reshape.Field
import Reshape.Host
import Reshape.Host.Desk
import Reshape.Host.Path
import Reshape.Json
import Reshape.Json.Equality
import Reshape.Json.Location
import Reshape.Json.Printer
import Reshape.Json.Reader
import Reshape.Keyed
import Reshape.Main
import Reshape.Modifier
import Reshape.Path
import Reshape.Path.Query
import Reshape.Path.Query.Pattern
import Reshape.Path.Query.Reader
import Reshape.Path.Query.Selection
import Reshape.Path.Simple
import Reshape.Plan
import Reshape.Plan.Listing
import Reshape.Proofs.Batches
import Reshape.Proofs.Cardinality
import Reshape.Proofs.Chains
import Reshape.Proofs.Compilation
import Reshape.Proofs.Conformance
import Reshape.Proofs.Conversions
import Reshape.Proofs.Counter
import Reshape.Proofs.Digits
import Reshape.Proofs.Documents
import Reshape.Proofs.Equality
import Reshape.Proofs.Failure
import Reshape.Proofs.Files
import Reshape.Proofs.FirstFault
import Reshape.Proofs.Grammar
import Reshape.Proofs.Independence
import Reshape.Proofs.LayeredSettings
import Reshape.Proofs.Layering
import Reshape.Proofs.LeadingIntegers
import Reshape.Proofs.Leaves
import Reshape.Proofs.Loading
import Reshape.Proofs.Mantissa
import Reshape.Proofs.Naming
import Reshape.Proofs.NestedRuns
import Reshape.Proofs.Nesting
import Reshape.Proofs.Outcome
import Reshape.Proofs.Path.Agreement
import Reshape.Proofs.Path.Places
import Reshape.Proofs.Path.Spelling
import Reshape.Proofs.Path.Tokens
import Reshape.Proofs.Path.Translation
import Reshape.Proofs.Producers
import Reshape.Proofs.Reading
import Reshape.Proofs.Representatives
import Reshape.Proofs.Resolution
import Reshape.Proofs.Results
import Reshape.Proofs.Routes
import Reshape.Proofs.SavedSettings
import Reshape.Proofs.SchemaFault
import Reshape.Proofs.ScopedKeys
import Reshape.Proofs.Script
import Reshape.Proofs.Session
import Reshape.Proofs.Shorthand
import Reshape.Proofs.Supply
import Reshape.Proofs.TableLists
import Reshape.Proofs.Tables
import Reshape.Proofs.Template
import Reshape.Proofs.Tolerance
import Reshape.Proofs.Trimming
import Reshape.Proofs.WholeNumbers
import Reshape.Proofs.WrittenNumbers
import Reshape.Proofs.WrittenSettings
import Reshape.Schema
import Reshape.Schema.Reader
import Reshape.Settings
import Reshape.Settings.Environment
import Reshape.Settings.Form
import Reshape.Settings.Format
import Reshape.Settings.Layer
import Reshape.Settings.Loading
import Reshape.Settings.Value
import Reshape.Text.Blank
import Reshape.Text.CaseTable
import Reshape.Text.Casing
import Reshape.Text.Digits
import Reshape.Text.Printable
import Reshape.Text.Quoted
import Reshape.Text.Ranges
import Reshape.Text.Reader
import Reshape.Toml
import Reshape.Toml.Moment
import Reshape.Toml.Reader
import Reshape.Toml.Table
import Reshape.ValueMap
