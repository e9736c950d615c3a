import MarkdownHighlight.Engine.Session
import MarkdownHighlight.Grammar.Shout
import MarkdownHighlight.Grammar.Source
import MarkdownHighlight.Main
import MarkdownHighlight.Timing.PassTimer
import MarkdownHighlight.Proofs.Regex.Outcomes
import MarkdownHighlight.Proofs.Regex.Members
import MarkdownHighlight.Proofs.Text.Tiles
import MarkdownHighlight.Proofs.Markup.Seam
import MarkdownHighlight.Proofs.Grammar.Forms
import MarkdownHighlight.Proofs.Grammar.Cuts
import MarkdownHighlight.Proofs.Grammar.Lawful
import MarkdownHighlight.Proofs.Claim.Index
import MarkdownHighlight.Proofs.Claim.Plain
import MarkdownHighlight.Proofs.Claim.Scan
import MarkdownHighlight.Proofs.Token.Forest
import MarkdownHighlight.Proofs.Token.Lossless
import MarkdownHighlight.Proofs.Token.PlainTree
import MarkdownHighlight.Proofs.Document.Slices
import MarkdownHighlight.Proofs.Markup.Tags
import MarkdownHighlight.Proofs.Markup.Faithful
import MarkdownHighlight.Proofs.Regex.Window
import MarkdownHighlight.Proofs.Text.Shift
import MarkdownHighlight.Proofs.Token.Shift
import MarkdownHighlight.Proofs.Grammar.Shift
import MarkdownHighlight.Proofs.Claim.Window
import MarkdownHighlight.Proofs.Claim.Joined
import MarkdownHighlight.Proofs.Markup.Joined
import MarkdownHighlight.Proofs.Document.Narrowed
import MarkdownHighlight.Proofs.Claim.Visits
import MarkdownHighlight.Proofs.Document.Total
import MarkdownHighlight.Proofs.Cache.Entries
import MarkdownHighlight.Proofs.Engine.Transparent
import MarkdownHighlight.Proofs.Markup.Escaped
import MarkdownHighlight.Proofs.Grammar.Matches
import MarkdownHighlight.Proofs.Grammar.Escaped
import MarkdownHighlight.Proofs.Markup.Idempotent
import MarkdownHighlight.Proofs.Regex.Preferred
import MarkdownHighlight.Proofs.Grammar.LineForms
import MarkdownHighlight.Proofs.Grammar.LineReading
import MarkdownHighlight.Proofs.Grammar.Inline
import MarkdownHighlight.Proofs.Token.BlockLines
import MarkdownHighlight.Proofs.Terminal.Screen
import MarkdownHighlight.Proofs.Terminal.Layers
import MarkdownHighlight.Proofs.Terminal.Faithful
import MarkdownHighlight.Proofs.Run.History
import MarkdownHighlight.Proofs.Schedule.Burst
import MarkdownHighlight.Proofs.Engine.Frame
import MarkdownHighlight.Proofs.Engine.Docket
import MarkdownHighlight.Proofs.Engine.Completions
import MarkdownHighlight.Proofs.Engine.Coalesced
import MarkdownHighlight.Proofs.Cache.FirstInFirstOut
import MarkdownHighlight.Proofs.Engine.Accounting
import MarkdownHighlight.Proofs.Engine.Retired
import MarkdownHighlight.Proofs.CommandLine.MarkupOutput
import MarkdownHighlight.Proofs.Text.Reader
import MarkdownHighlight.Proofs.Text.Decimal
import MarkdownHighlight.Proofs.Toml.Lines
import MarkdownHighlight.Proofs.Options.RoundTrip
import MarkdownHighlight.Proofs.Engine.Displaced
import MarkdownHighlight.Proofs.Token.InlineTokens
import MarkdownHighlight.Proofs.Grammar.FenceReading
import MarkdownHighlight.Proofs.Token.CodeBlocks
import MarkdownHighlight.Proofs.Document.Selection
import MarkdownHighlight.Proofs.Markup.Unescape
import MarkdownHighlight.Proofs.Cache.Fingerprint
import MarkdownHighlight.Proofs.Claim.Apart
import MarkdownHighlight.Proofs.Token.Levels
import MarkdownHighlight.Proofs.Token.Depth
import MarkdownHighlight.Proofs.CommandLine.Entries
import MarkdownHighlight.Proofs.CommandLine.ViewportRange
import MarkdownHighlight.Proofs.Claim.Insertions
import MarkdownHighlight.Proofs.Grammar.Parts
import MarkdownHighlight.Proofs.Regex.Automaton
import MarkdownHighlight.Proofs.Claim.Members
import MarkdownHighlight.Proofs.Claim.Progress
