import BidiViewport.Main
import BidiViewport.Proofs.Layout.Grouping
import BidiViewport.Proofs.Layout.Placement
import BidiViewport.Proofs.Viewport.Bijection
import BidiViewport.Proofs.Viewport.Cohesion
import BidiViewport.Proofs.Viewport.Freshness
import BidiViewport.Proofs.Viewport.Scrolling
import BidiViewport.Proofs.Viewport.MissingRows
import BidiViewport.Proofs.Layout.Footprint
import BidiViewport.Proofs.Viewport.Locality
import BidiViewport.Proofs.Layout.Units
import BidiViewport.Proofs.Viewport.Integrity
import BidiViewport.Proofs.Layout.SingleDirection
import BidiViewport.Proofs.Viewport.Shortcut
import BidiViewport.Proofs.Layout.Analyses
import BidiViewport.Proofs.Viewport.Fallbacks
import BidiViewport.Proofs.Layout.Straight
import BidiViewport.Proofs.Viewport.Degradation
import BidiViewport.Proofs.Grid.Wrapping
import BidiViewport.Proofs.Viewport.Rewrapping
import BidiViewport.Proofs.Grid.Numbering
import BidiViewport.Proofs.Layout.Leaders
import BidiViewport.Proofs.Viewport.Limits
import BidiViewport.Proofs.Viewport.Printing
import BidiViewport.Proofs.Layout.Entries
import BidiViewport.Proofs.Viewport.Rendering
import BidiViewport.Proofs.Text.Controls
import BidiViewport.Proofs.Viewport.PlainText
import BidiViewport.Proofs.CommandLine.Output
import BidiViewport.Proofs.Shaping.Joins
import BidiViewport.Proofs.Shaping.Strokes
import BidiViewport.Proofs.Grid.Margins
import BidiViewport.Proofs.Viewport.Storage
import BidiViewport.Proofs.Layout.Alignment
import BidiViewport.Proofs.Layout.InStep
import BidiViewport.Proofs.Layout.Glyphs
import BidiViewport.Proofs.Viewport.Alignment
import BidiViewport.Proofs.Viewport.Shaped
import BidiViewport.Proofs.Viewport.LineFailures
import BidiViewport.Proofs.Bidi.Levels
import BidiViewport.Proofs.Viewport.MixedRows
import BidiViewport.Proofs.Grid.SingleRow
import BidiViewport.Proofs.Viewport.Cost
import BidiViewport.Proofs.Layout.OwnGlyphs
import BidiViewport.Proofs.Viewport.ShapedCells
import BidiViewport.Proofs.Layout.LeftToRight
import BidiViewport.Proofs.Viewport.RoundTrip
import BidiViewport.Proofs.Layout.Buffer
import BidiViewport.Proofs.Settings.Windows
