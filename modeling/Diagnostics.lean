import Diagnostics.Text.LowerCase
import Diagnostics.Text.Capital
import Diagnostics.Text.Digit
import Diagnostics.Text.Blank
import Diagnostics.Text.Width
import Diagnostics.Text.Quoted
import Diagnostics.Text.Lines
import Diagnostics.Text.Escape
import Diagnostics.Text.Utf8
import Diagnostics.Sorting
import Diagnostics.Source.Position
import Diagnostics.Source.Registry
import Diagnostics.Source.Excerpt
import Diagnostics.Severity.Comparison
import Diagnostics.Report
import Diagnostics.Issue.Composition
import Diagnostics.Log.Setup
import Diagnostics.Log.Template
import Diagnostics.Renderer
import Diagnostics.Decimal.Reading
import Diagnostics.Config.Table
import Diagnostics.Config.Files
import Diagnostics.Release
import Diagnostics.Proofs.Text.Lines
import Diagnostics.Proofs.Text.Utf8
import Diagnostics.Proofs.Source.LineTable
import Diagnostics.Proofs.Source.Position
import Diagnostics.Proofs.Outcome
import Diagnostics.Proofs.Source.Excerpt
import Diagnostics.Proofs.Source.Span
import Diagnostics.Proofs.Block.Alignment
import Diagnostics.Proofs.Issue.Alignment
import Diagnostics.Proofs.Renderer
import Diagnostics.Proofs.Block.Continuity
import Diagnostics.Proofs.Issue.Likeness
import Diagnostics.Proofs.Source.Agreement
import Diagnostics.Proofs.Issue.Locality
import Diagnostics.Proofs.Source.Returns
import Diagnostics.Proofs.Issue.Returns
import Diagnostics.Proofs.Text.Escape
import Diagnostics.Proofs.Block.Characters
import Diagnostics.Proofs.Issue.Characters
import Diagnostics.Proofs.Sink
import Diagnostics.Proofs.Report.Characters
import Diagnostics.Proofs.Renderer.Colors
import Diagnostics.Proofs.Issue.Styles
import Diagnostics.Proofs.Drawing.Order
import Diagnostics.Proofs.Issue.Permutation
import Diagnostics.Proofs.Stream
import Diagnostics.Proofs.Renderer.Streams
import Diagnostics.Proofs.Renderer.Modes
import Diagnostics.Proofs.Source.Cover
import Diagnostics.Proofs.Drawing.Stroke
import Diagnostics.Proofs.Drawing.Normal
import Diagnostics.Proofs.Drawing.Feeds
import Diagnostics.Proofs.Block.Feeds
import Diagnostics.Proofs.Issue.Feeds
import Diagnostics.Proofs.Renderer.Feeds
import Diagnostics.Proofs.Source.Prefixes
import Diagnostics.Proofs.Source.Runs
import Diagnostics.Proofs.Block.Closing
import Diagnostics.Proofs.Source.Windows
import Diagnostics.Proofs.Drawing.Ends
import Diagnostics.Proofs.Config.Table
import Diagnostics.Proofs.Source.Partition
import Diagnostics.Proofs.Config.RoundTrip
import Diagnostics.Proofs.Config.Loading
import Diagnostics.Proofs.Config.Search
import Diagnostics.Proofs.Config.Discovery
import Diagnostics.Proofs.Report.Aggregates
import Diagnostics.Proofs.Log.Level
