import FanServer.Actions
import FanServer.Document
import FanServer.Editor
import FanServer.Frame
import FanServer.Grammar
import FanServer.Grammar.Locate
import FanServer.Grammar.Names
import FanServer.Grammar.Parse
import FanServer.Header
import FanServer.Hover
import FanServer.Json
import FanServer.Json.Decode
import FanServer.Json.Editor
import FanServer.Json.Model
import FanServer.Json.Read
import FanServer.Json.Write
import FanServer.Link
import FanServer.Main
import FanServer.Navigation
import FanServer.Outline
import FanServer.Relink
import FanServer.Server
import FanServer.Session
import FanServer.Session.Call
import FanServer.Settings
import FanServer.Settings.Binary64
import FanServer.Settings.Loader
import FanServer.Settings.Path
import FanServer.Settings.Toml
import FanServer.Settings.Toml.Date
import FanServer.Settings.Toml.Number
import FanServer.Settings.Toml.Table
import FanServer.Settings.Toml.Text
import FanServer.Settings.Value
import FanServer.Span
import FanServer.Store
import FanServer.SyntaxError
import FanServer.Text.Blank
import FanServer.Text.Bytes
import FanServer.Text.Digits
import FanServer.Text.GraphemeExtend
import FanServer.Text.Interval
import FanServer.Text.Line
import FanServer.Text.LowerCase
import FanServer.Text.Position
import FanServer.Text.Printable
import FanServer.Text.Quoted
import FanServer.Text.Shift
import FanServer.Token
import FanServer.Token.Scan
import FanServer.Uri
import FanServer.Uri.Domain
import FanServer.Uri.Domain.CombiningClass
import FanServer.Uri.Domain.Composition
import FanServer.Uri.Domain.Direction
import FanServer.Uri.Domain.Expansion
import FanServer.Uri.Domain.Joining
import FanServer.Uri.Domain.Mapping
import FanServer.Uri.Domain.Mark
import FanServer.Uri.Domain.NormalForm
import FanServer.Uri.Domain.Variant
import FanServer.Uri.Host
import FanServer.Uri.Path
import FanServer.Uri.Percent
import FanServer.Uri.Punycode
import FanServer.Proofs.Relink
import FanServer.Proofs.Links
import FanServer.Proofs.OpenDocuments
import FanServer.Proofs.Diagnostics
import FanServer.Proofs.Interleaving
import FanServer.Proofs.Derivation
import FanServer.Proofs.Parse
import FanServer.Proofs.Pattern
import FanServer.Proofs.Scan
import FanServer.Proofs.Lines
import FanServer.Proofs.Position
import FanServer.Proofs.Replay
import FanServer.Proofs.Definition
import FanServer.Proofs.Requests
import FanServer.Proofs.Declaration
import FanServer.Proofs.DeclarationTokens
import FanServer.Proofs.Layout
import FanServer.Proofs.Spans
import FanServer.Proofs.Symbols
import FanServer.Proofs.Nesting
import FanServer.Proofs.Locate
import FanServer.Proofs.References
import FanServer.Proofs.Agreement
import FanServer.Proofs.Mentions
import FanServer.Proofs.Verbatim
import FanServer.Proofs.Continuation
import FanServer.Proofs.Incomplete
import FanServer.Proofs.Conversion
import FanServer.Proofs.MethodPattern
import FanServer.Proofs.Pass
import FanServer.Proofs.Hover
import FanServer.Proofs.Blame
import FanServer.Proofs.NoFault
import FanServer.Proofs.Layering
import FanServer.Proofs.Precedence
import FanServer.Proofs.Depth
