import RuleLexer.Digest.Fingerprint
import RuleLexer.Digest.Md5
import RuleLexer.Digest.Sha256
import RuleLexer.Digest.Words
import RuleLexer.Json.Printer
import RuleLexer.Json.Reader
import RuleLexer.Log
import RuleLexer.Number.Binary64
import RuleLexer.Number.Float
import RuleLexer.Number.Integer
import RuleLexer.Number.Notation
import RuleLexer.Number.Shortest
import RuleLexer.Proofs.Json.Canonical
import RuleLexer.Proofs.Json.RoundTrip
import RuleLexer.Proofs.Json.Scalar
import RuleLexer.Proofs.Number.Digits
import RuleLexer.Proofs.Regex.AlignedLexemes
import RuleLexer.Proofs.Regex.AlignedParsing
import RuleLexer.Proofs.Regex.Alignment
import RuleLexer.Proofs.Regex.Beside
import RuleLexer.Proofs.Regex.Counting
import RuleLexer.Proofs.Regex.Form
import RuleLexer.Proofs.Regex.Landmarks
import RuleLexer.Proofs.Regex.Listing
import RuleLexer.Proofs.Regex.LocalLexemes
import RuleLexer.Proofs.Regex.Locality
import RuleLexer.Proofs.Regex.Lockstep
import RuleLexer.Proofs.Regex.Markup
import RuleLexer.Proofs.Regex.Numbering
import RuleLexer.Proofs.Regex.Parsing
import RuleLexer.Proofs.Regex.Progress
import RuleLexer.Proofs.Regex.Reading
import RuleLexer.Proofs.Regex.Recognition
import RuleLexer.Proofs.Regex.Rejection
import RuleLexer.Proofs.Regex.Search
import RuleLexer.Proofs.Regex.Shadowing
import RuleLexer.Proofs.Regex.Shift
import RuleLexer.Proofs.Rule.Assembly
import RuleLexer.Proofs.Rule.Callbacks
import RuleLexer.Proofs.Rule.Composition
import RuleLexer.Proofs.Rule.Dispatch
import RuleLexer.Proofs.Rule.Embedding
import RuleLexer.Proofs.Rule.Extension
import RuleLexer.Proofs.Rule.FlagFolding
import RuleLexer.Proofs.Rule.FlagGroups
import RuleLexer.Proofs.Rule.Joining
import RuleLexer.Proofs.Rule.Layout
import RuleLexer.Proofs.Rule.MarkedText
import RuleLexer.Proofs.Rule.Raising
import RuleLexer.Proofs.Rule.Spelling
import RuleLexer.Proofs.Rule.Standalone
import RuleLexer.Proofs.Rule.Substitution
import RuleLexer.Proofs.Scan.Accounting
import RuleLexer.Proofs.Scan.Advance
import RuleLexer.Proofs.Scan.Course
import RuleLexer.Proofs.Scan.Coverage
import RuleLexer.Proofs.Scan.DefaultTable
import RuleLexer.Proofs.Scan.Diagnostics
import RuleLexer.Proofs.Scan.Direct
import RuleLexer.Proofs.Scan.Emission
import RuleLexer.Proofs.Scan.LineBreak
import RuleLexer.Proofs.Scan.LiteralTable
import RuleLexer.Proofs.Scan.Position
import RuleLexer.Proofs.Scan.TokenPosition
import RuleLexer.Proofs.Scan.Trace
import RuleLexer.Proofs.Session.Callbacks
import RuleLexer.Proofs.Session.Calls
import RuleLexer.Proofs.Session.Completion
import RuleLexer.Proofs.Session.Delivery
import RuleLexer.Proofs.Session.History
import RuleLexer.Proofs.Session.Lifecycle
import RuleLexer.Proofs.Session.Profiling
import RuleLexer.Proofs.Session.Running
import RuleLexer.Proofs.Source.Account
import RuleLexer.Proofs.Source.Entities
import RuleLexer.Proofs.Source.Expression
import RuleLexer.Proofs.Source.Markup
import RuleLexer.Proofs.Source.Range
import RuleLexer.Proofs.Source.Rendering
import RuleLexer.Proofs.Source.Renumbering
import RuleLexer.Proofs.Source.Sites
import RuleLexer.Proofs.Source.Splitting
import RuleLexer.Proofs.Source.Tally
import RuleLexer.Proofs.Token.Canonical
import RuleLexer.Proofs.Token.Reading
import RuleLexer.Proofs.Token.RoundTrip
import RuleLexer.Proofs.Value.Reordering
import RuleLexer.Regex.Basic
import RuleLexer.Regex.Escape
import RuleLexer.Regex.Flags
import RuleLexer.Regex.Lexeme
import RuleLexer.Regex.Malformed
import RuleLexer.Regex.Matching
import RuleLexer.Regex.Mode
import RuleLexer.Regex.Parser
import RuleLexer.Regex.Pattern
import RuleLexer.Regex.Piece
import RuleLexer.Regex.Search
import RuleLexer.Rule.Action
import RuleLexer.Rule.Basic
import RuleLexer.Rule.Compile
import RuleLexer.Rule.Error
import RuleLexer.Scan.Context
import RuleLexer.Scan.Scanner
import RuleLexer.Scan.State
import RuleLexer.Session.Basic
import RuleLexer.Session.Step
import RuleLexer.Source.Entities
import RuleLexer.Source.Literal
import RuleLexer.Source.Normal
import RuleLexer.Source.Renumber
import RuleLexer.Source.Segment
import RuleLexer.Source.Segment.Lemmas
import RuleLexer.Text.Blank
import RuleLexer.Text.CharacterName
import RuleLexer.Text.CharacterName.Alias
import RuleLexer.Text.CharacterName.Alphabets
import RuleLexer.Text.CharacterName.Ancient
import RuleLexer.Text.CharacterName.Asian
import RuleLexer.Text.CharacterName.Pictographs
import RuleLexer.Text.CharacterName.Run
import RuleLexer.Text.CharacterName.Symbols
import RuleLexer.Text.Digit
import RuleLexer.Text.Identifier
import RuleLexer.Text.Letter
import RuleLexer.Text.LowerCase
import RuleLexer.Text.Printable
import RuleLexer.Text.Quoted
import RuleLexer.Text.Ranges
import RuleLexer.Token.Basic
import RuleLexer.Token.Serial
import RuleLexer.Value.Basic
import RuleLexer.Value.Shown
