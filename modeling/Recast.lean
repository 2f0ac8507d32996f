import Recast.Display.Colour
import Recast.Main
import Recast.Proofs.Source.Program
import Recast.Proofs.Block.StackFree
import Recast.Proofs.Pattern.Cue
import Recast.Proofs.Pattern.Lines
import Recast.Proofs.Source.Blank
import Recast.Proofs.Source.Missing
import Recast.Proofs.Chain.Cues
import Recast.Proofs.Chain.Insight
import Recast.Proofs.Chain.Steps
import Recast.Proofs.Chain.Readings
import Recast.Proofs.Chain.Refusals
import Recast.Proofs.Chain.Known
import Recast.Proofs.Block.Nesting
import Recast.Proofs.Chain.Recasting
import Recast.Proofs.Block.Braces
import Recast.Proofs.Chain.ToJavaScript
import Recast.Proofs.Block.Balance
import Recast.Proofs.Chain.Braced
import Recast.Proofs.Chain.BraceForms
import Recast.Proofs.Chain.BraceKnown
import Recast.Proofs.Chain.ClosingLines
import Recast.Proofs.Chain.ElseLines
import Recast.Proofs.Chain.RoundTrip
import Recast.Proofs.Block.OneLevel
import Recast.Proofs.Block.EndWord
import Recast.Proofs.Chain.ToRuby
import Recast.Proofs.Text.Lower
import Recast.Proofs.Catalog
import Recast.Proofs.Recaster
import Recast.Proofs.Template.Script
import Recast.Proofs.Template.Idioms
import Recast.Proofs.Template.Carry
import Recast.Proofs.Template.Output
import Recast.Proofs.Block.Lookahead
import Recast.Proofs.Files
import Recast.Proofs.Command.Effects
import Recast.Proofs.Pattern.Takes
import Recast.Proofs.Chain.LineFeeds
import Recast.Proofs.Block.Settled
import Recast.Proofs.Block.Depth
import Recast.Proofs.Pattern.Trigger
import Recast.Proofs.Chain.Triggers
import Recast.Proofs.Chain.Untouched
import Recast.Proofs.Source.Assignment
import Recast.Proofs.Chain.Assignments
import Recast.Proofs.Chain.Declarations
import Recast.Proofs.Source.OneLine
import Recast.Proofs.Chain.OneLine
import Recast.Proofs.Chain.Printing
import Recast.Proofs.Chain.Calls
import Recast.Proofs.Block.Runs
import Recast.Proofs.Block.Indented
import Recast.Proofs.Template.Formatted
import Recast.Proofs.Pattern.Respelling
import Recast.Proofs.Chain.Conditions
import Recast.Proofs.Echo
import Recast.Proofs.Settings.Entries
import Recast.Proofs.Settings.Overlay
import Recast.Proofs.Settings.Loading
import Recast.Proofs.Settings.Initial
import Recast.Proofs.Pattern.LineFilter
import Recast.Proofs.Template.Preamble
import Recast.Proofs.Template.Entry
import Recast.Proofs.Template.CountedLoop
import Recast.Proofs.Commented
import Recast.Proofs.Text.Indentation
import Recast.Proofs.Pattern.Inline
import Recast.Proofs.Chain.LineRules
