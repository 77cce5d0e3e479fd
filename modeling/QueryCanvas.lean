import QueryCanvas.Canvas.Basic
import QueryCanvas.Canvas.Handle
import QueryCanvas.Canvas.Layout
import QueryCanvas.Catalog.Client
import QueryCanvas.Catalog.Sidebar
import QueryCanvas.Catalog.Structure
import QueryCanvas.Command.Arguments
import QueryCanvas.Command.Help
import QueryCanvas.Command.Invocation
import QueryCanvas.Command.Run
import QueryCanvas.Digest.Sha256
import QueryCanvas.Directive.Basic
import QueryCanvas.Directive.Config
import QueryCanvas.Directive.Key
import QueryCanvas.Export.Error
import QueryCanvas.Export.Gateway
import QueryCanvas.Export.Submission
import QueryCanvas.Fields.Panel
import QueryCanvas.Fields.Store
import QueryCanvas.Host.Basic
import QueryCanvas.Host.Machine
import QueryCanvas.Host.OsText
import QueryCanvas.Host.Path
import QueryCanvas.Host.Tree
import QueryCanvas.Join.Entry
import QueryCanvas.Join.Inference
import QueryCanvas.Json.Decoder
import QueryCanvas.Json.Lexical
import QueryCanvas.Json.Numeral
import QueryCanvas.Json.Problem
import QueryCanvas.Json.Skip
import QueryCanvas.Json.Value
import QueryCanvas.Json.Writer
import QueryCanvas.Main
import QueryCanvas.Number.Nearest
import QueryCanvas.Number.Ratio
import QueryCanvas.Number.Shortest
import QueryCanvas.OrderedMap
import QueryCanvas.Proofs.Canvas.Connectable
import QueryCanvas.Proofs.Canvas.Growth
import QueryCanvas.Proofs.Canvas.HandleForms
import QueryCanvas.Proofs.Canvas.Handles
import QueryCanvas.Proofs.Canvas.Permanence
import QueryCanvas.Proofs.Canvas.Records
import QueryCanvas.Proofs.Canvas.Run
import QueryCanvas.Proofs.Canvas.Verdicts
import QueryCanvas.Proofs.Catalog.Document
import QueryCanvas.Proofs.Catalog.Freshness
import QueryCanvas.Proofs.Command.Compiling
import QueryCanvas.Proofs.Command.Copying
import QueryCanvas.Proofs.Command.Delivering
import QueryCanvas.Proofs.Command.Ending
import QueryCanvas.Proofs.Command.Loading
import QueryCanvas.Proofs.Command.Placing
import QueryCanvas.Proofs.Directive.KeyReading
import QueryCanvas.Proofs.Directive.KeyText
import QueryCanvas.Proofs.Directive.Rewording
import QueryCanvas.Proofs.Directive.RoundTrip
import QueryCanvas.Proofs.Export.Document
import QueryCanvas.Proofs.Fields.Edits
import QueryCanvas.Proofs.Fields.History
import QueryCanvas.Proofs.Fields.Run
import QueryCanvas.Proofs.Fields.Texts
import QueryCanvas.Proofs.FirstOccurrences
import QueryCanvas.Proofs.Host.OsText
import QueryCanvas.Proofs.Host.Path
import QueryCanvas.Proofs.Host.Transcript
import QueryCanvas.Proofs.Host.Tree
import QueryCanvas.Proofs.Join.Blocks
import QueryCanvas.Proofs.Join.Direction
import QueryCanvas.Proofs.Join.Exactness
import QueryCanvas.Proofs.Join.Order
import QueryCanvas.Proofs.Join.Split
import QueryCanvas.Proofs.Json.Blanks
import QueryCanvas.Proofs.Json.Dictionaries
import QueryCanvas.Proofs.Json.Fields
import QueryCanvas.Proofs.Json.Leeway
import QueryCanvas.Proofs.Json.Pieces
import QueryCanvas.Proofs.Json.Reading
import QueryCanvas.Proofs.Json.Records
import QueryCanvas.Proofs.Json.RoundTrip
import QueryCanvas.Proofs.Json.Skipping
import QueryCanvas.Proofs.Json.Spelling
import QueryCanvas.Proofs.Number.Decimal
import QueryCanvas.Proofs.Number.Shortest
import QueryCanvas.Proofs.Query.Alignment
import QueryCanvas.Proofs.Query.Emptiness
import QueryCanvas.Proofs.Query.Fallback
import QueryCanvas.Proofs.Query.Inclusion
import QueryCanvas.Proofs.Query.Locality
import QueryCanvas.Proofs.Query.Priority
import QueryCanvas.Proofs.Query.RoundTrip
import QueryCanvas.Proofs.Script.Interleaving
import QueryCanvas.Proofs.Script.LastConfigured
import QueryCanvas.Proofs.Script.Replay
import QueryCanvas.Proofs.Script.RoundTrip
import QueryCanvas.Proofs.Script.Undeclared
import QueryCanvas.Proofs.Session.Connecting
import QueryCanvas.Proofs.Session.Exports
import QueryCanvas.Proofs.Session.Joins
import QueryCanvas.Proofs.Session.Run
import QueryCanvas.Proofs.Settings.Expansion
import QueryCanvas.Proofs.Settings.Url
import QueryCanvas.Proofs.Table.Classification
import QueryCanvas.Proofs.Text.Lowercase
import QueryCanvas.Proofs.Text.Pattern
import QueryCanvas.Query.Compile
import QueryCanvas.Query.Document
import QueryCanvas.Query.Specification
import QueryCanvas.Script.Basic
import QueryCanvas.Script.Replay
import QueryCanvas.Session.Basic
import QueryCanvas.Settings.Basic
import QueryCanvas.Settings.Document
import QueryCanvas.Settings.Expansion
import QueryCanvas.Settings.Location
import QueryCanvas.Settings.Url
import QueryCanvas.Table.Basic
import QueryCanvas.Table.FieldType
import QueryCanvas.Text.Alphanumeric
import QueryCanvas.Text.Blank
import QueryCanvas.Text.Cased
import QueryCanvas.Text.FormUrl
import QueryCanvas.Text.Hexadecimal
import QueryCanvas.Text.Lowercase
import QueryCanvas.Text.Quoted
import QueryCanvas.Text.Ranges
import QueryCanvas.Text.Search
import QueryCanvas.Toml.Quoted
import QueryCanvas.Toml.Reader
import QueryCanvas.Toml.Scalar
import QueryCanvas.Toml.Tree
import QueryCanvas.Toml.Value
