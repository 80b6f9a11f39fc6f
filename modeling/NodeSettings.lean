import NodeSettings.Binary64.Basic
import NodeSettings.Binary64.Decimal
import NodeSettings.Catalog.Basic
import NodeSettings.Catalog.Consensus
import NodeSettings.Catalog.Execution
import NodeSettings.Catalog.GraffitiWall
import NodeSettings.Catalog.Metrics
import NodeSettings.Catalog.Native
import NodeSettings.Catalog.Shared
import NodeSettings.Catalog.Smartnode
import NodeSettings.Catalog.TopLevel
import NodeSettings.Configuration.Basic
import NodeSettings.Configuration.Changes
import NodeSettings.Configuration.Environment
import NodeSettings.Configuration.Operation
import NodeSettings.Configuration.Report
import NodeSettings.Configuration.Selection
import NodeSettings.Document.Error
import NodeSettings.Document.Format
import NodeSettings.Document.Json
import NodeSettings.Document.Text
import NodeSettings.Document.Upgrade
import NodeSettings.Document.Yaml
import NodeSettings.Duration
import NodeSettings.Endpoint.Address
import NodeSettings.Endpoint.Basic
import NodeSettings.Endpoint.Domain
import NodeSettings.Endpoint.Punycode
import NodeSettings.Error
import NodeSettings.FileTree
import NodeSettings.Group
import NodeSettings.Json.Basic
import NodeSettings.Json.Number
import NodeSettings.Json.Syntax
import NodeSettings.Names
import NodeSettings.Parameter
import NodeSettings.Path
import NodeSettings.Pattern.Basic
import NodeSettings.Pattern.CharacterSet
import NodeSettings.Pattern.Escape
import NodeSettings.Pattern.Parser
import NodeSettings.Proofs.Acceptance
import NodeSettings.Proofs.Comparison
import NodeSettings.Proofs.Declared
import NodeSettings.Proofs.Defaults
import NodeSettings.Proofs.Directories
import NodeSettings.Proofs.Doppelgangers
import NodeSettings.Proofs.Environment
import NodeSettings.Proofs.Faults
import NodeSettings.Proofs.FileTree
import NodeSettings.Proofs.FileUpgrade
import NodeSettings.Proofs.JsonText
import NodeSettings.Proofs.Loading
import NodeSettings.Proofs.Maintenance
import NodeSettings.Proofs.Moves
import NodeSettings.Proofs.NumberText
import NodeSettings.Proofs.Reading
import NodeSettings.Proofs.Refreshing
import NodeSettings.Proofs.Refusal
import NodeSettings.Proofs.Relevance
import NodeSettings.Proofs.Restarts
import NodeSettings.Proofs.RoundTrip
import NodeSettings.Proofs.Rounding
import NodeSettings.Proofs.Rules
import NodeSettings.Proofs.Run
import NodeSettings.Proofs.Saving
import NodeSettings.Proofs.Selections
import NodeSettings.Proofs.Shortest
import NodeSettings.Proofs.Stamps
import NodeSettings.Proofs.Storing
import NodeSettings.Proofs.Switching
import NodeSettings.Proofs.Traversal
import NodeSettings.Proofs.Upgrade
import NodeSettings.Proofs.Validity
import NodeSettings.Proofs.ValueText
import NodeSettings.SettingsFile
import NodeSettings.Table
import NodeSettings.Text.Blank
import NodeSettings.Text.Case
import NodeSettings.Text.Category
import NodeSettings.Text.Compatibility
import NodeSettings.Text.Composition
import NodeSettings.Text.Fields
import NodeSettings.Text.Numeral
import NodeSettings.Text.Quoted
import NodeSettings.Text.Shaping
import NodeSettings.Value.Basic
import NodeSettings.Value.Json
import NodeSettings.Version
import NodeSettings.Yaml.Basic
import NodeSettings.Yaml.Characters
import NodeSettings.Yaml.Node
import NodeSettings.Yaml.Plain
import NodeSettings.Yaml.Scalar
import NodeSettings.Yaml.Scanner
import NodeSettings.Yaml.Style
import NodeSettings.Yaml.Token
import NodeSettings.Proofs.Resetting
import NodeSettings.Proofs.Returning
import NodeSettings.Proofs.Commuting
import NodeSettings.Proofs.Atomicity
import NodeSettings.Proofs.Blanks
import NodeSettings.Proofs.Yaml.Gaps
import NodeSettings.Proofs.Yaml.PlainText
import NodeSettings.Proofs.Yaml.QuotedText
import NodeSettings.Proofs.Yaml.BlockText
import NodeSettings.Proofs.Yaml.Stages
import NodeSettings.Proofs.Yaml.Scalars
import NodeSettings.Proofs.Yaml.Entries
import NodeSettings.Proofs.YamlText
import NodeSettings.Proofs.Matching
import NodeSettings.Proofs.Identifiers
import NodeSettings.Proofs.Words
import NodeSettings.Proofs.Mismatches
import NodeSettings.Proofs.Order
import NodeSettings.Proofs.Bounds
import NodeSettings.Proofs.Restoring
import NodeSettings.Proofs.Numerals
import NodeSettings.Proofs.Versions
import NodeSettings.Proofs.ValueGrammar
import NodeSettings.Proofs.Handwritten
import NodeSettings.Proofs.DataPath
