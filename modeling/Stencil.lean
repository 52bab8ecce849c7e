import Stencil.Batch
import Stencil.Calendar
import Stencil.Command.Arguments
import Stencil.Command.Line
import Stencil.Command.Programs
import Stencil.Command.Reply
import Stencil.Context
import Stencil.Data.Flaw
import Stencil.Data.Json.Reader
import Stencil.Data.Json.Writer
import Stencil.Data.Yaml.Block
import Stencil.Data.Yaml.Cursor
import Stencil.Data.Yaml.Kind
import Stencil.Data.Yaml.Layout
import Stencil.Data.Yaml.Node
import Stencil.Data.Yaml.Plain
import Stencil.Data.Yaml.Property
import Stencil.Data.Yaml.Quoted
import Stencil.Data.Yaml.Reader
import Stencil.Data.Yaml.Scalar
import Stencil.Data.Yaml.Timestamp
import Stencil.Data.Yaml.Token
import Stencil.Decimal.Layout
import Stencil.Decimal.Nearest
import Stencil.Decimal.Shortest
import Stencil.Disk
import Stencil.Emoji.Code
import Stencil.Emoji.Creatures
import Stencil.Emoji.Faces
import Stencil.Emoji.Flags
import Stencil.Emoji.Joined
import Stencil.Emoji.Name
import Stencil.Emoji.Pictographs
import Stencil.Emoji.Signs
import Stencil.Emoji.Supplement
import Stencil.Emoji.Symbols
import Stencil.Emoji.Tone
import Stencil.Emoji.Transport
import Stencil.Evaluate
import Stencil.Expr.Basic
import Stencil.Expr.Lexeme
import Stencil.Expr.Reader
import Stencil.Fault
import Stencil.Filter.Apply
import Stencil.Filter.Basic
import Stencil.Finding
import Stencil.Host
import Stencil.HostError
import Stencil.Library.Functions
import Stencil.Library.Standard
import Stencil.Location
import Stencil.Main
import Stencil.Passage
import Stencil.Path
import Stencil.Press
import Stencil.Proofs.Applications
import Stencil.Proofs.Batches
import Stencil.Proofs.Beside
import Stencil.Proofs.CallOrder
import Stencil.Proofs.Callees
import Stencil.Proofs.Chains
import Stencil.Proofs.CleanText
import Stencil.Proofs.Complements
import Stencil.Proofs.Conduct
import Stencil.Proofs.Content
import Stencil.Proofs.Coverage
import Stencil.Proofs.Cuts
import Stencil.Proofs.Demands
import Stencil.Proofs.Depths
import Stencil.Proofs.Derivations
import Stencil.Proofs.Elsewhere
import Stencil.Proofs.Enclosures
import Stencil.Proofs.Endings
import Stencil.Proofs.Escaping
import Stencil.Proofs.Expected
import Stencil.Proofs.Failing
import Stencil.Proofs.Grammar
import Stencil.Proofs.Injection
import Stencil.Proofs.Interleavings
import Stencil.Proofs.ItemTexts
import Stencil.Proofs.Layers
import Stencil.Proofs.Leaves
import Stencil.Proofs.Leaving
import Stencil.Proofs.Lines
import Stencil.Proofs.LockStep
import Stencil.Proofs.Mentions
import Stencil.Proofs.NumberedTags
import Stencil.Proofs.Offsets
import Stencil.Proofs.OpenTags
import Stencil.Proofs.Overlooking
import Stencil.Proofs.PageLiterals
import Stencil.Proofs.Parsing
import Stencil.Proofs.Pieces
import Stencil.Proofs.Places
import Stencil.Proofs.Positions
import Stencil.Proofs.Raising
import Stencil.Proofs.Reach
import Stencil.Proofs.Realms
import Stencil.Proofs.Rendering
import Stencil.Proofs.Scan
import Stencil.Proofs.Seams
import Stencil.Proofs.Seclusion
import Stencil.Proofs.SequenceKeys
import Stencil.Proofs.Sessions
import Stencil.Proofs.SettledSections
import Stencil.Proofs.Slices
import Stencil.Proofs.Spelling
import Stencil.Proofs.Stores
import Stencil.Proofs.StrictReviews
import Stencil.Proofs.Strictness
import Stencil.Proofs.StringLiterals
import Stencil.Proofs.TagStates
import Stencil.Proofs.Tasks
import Stencil.Proofs.Termination
import Stencil.Proofs.Throughout
import Stencil.Proofs.ValueNames
import Stencil.Proofs.Visits
import Stencil.Proofs.Written
import Stencil.Render
import Stencil.Review
import Stencil.Run
import Stencil.Settings.Basic
import Stencil.Settings.File
import Stencil.Settings.Numeral
import Stencil.Settings.Reader
import Stencil.Sorting
import Stencil.Tag
import Stencil.Template.Flaw
import Stencil.Template.Names
import Stencil.Template.Node
import Stencil.Template.Source
import Stencil.Template.Store
import Stencil.Template.Token
import Stencil.Template.Tree
import Stencil.Terminal.Styled
import Stencil.Terminal.Table
import Stencil.Text.Base64
import Stencil.Text.Blank
import Stencil.Text.Case
import Stencil.Text.Case.Table
import Stencil.Text.Digit
import Stencil.Text.Hex
import Stencil.Text.Likeness
import Stencil.Text.Lines
import Stencil.Text.Mark
import Stencil.Text.Markup
import Stencil.Text.Numeral
import Stencil.Text.Percent
import Stencil.Text.Printable
import Stencil.Text.Quoted
import Stencil.Text.Range
import Stencil.Text.Script
import Stencil.Value.Basic
import Stencil.Value.Equality
import Stencil.Value.Key
import Stencil.Value.Literal
import Stencil.Value.Order
import Stencil.Value.Shown
import Stencil.Value.Truth
