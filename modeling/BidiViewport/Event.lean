import BidiViewport.Classifier.Basic

/-!
# Diagnostic events

What the library reports about its own work: rows that leave the scrollback, limits
that were clamped, paragraphs that could not be laid out from an analysis.  An event is
a value; its severity, the part of the library it comes from, its name and its fields
are functions of it.
-/

namespace BidiViewport

/-- How much attention an event deserves, the least first. -/
inductive Severity
  | trace
  | debug
  | info
  | warn
deriving DecidableEq

def Severity.name : Severity → String
  | trace => "trace"
  | debug => "debug"
  | info => "info"
  | warn => "warn"

inductive FieldValue
  | number (n : Nat)
  | text (s : String)
deriving DecidableEq

/-- What a layout pass did in total. -/
structure PassStats where
  paragraphs : Nat := 0
  /-- Rows read from the source, context rows included. -/
  rowsRead : Nat := 0
  /-- Paragraphs that asked for the bidirectional algorithm and were laid out
  without it. -/
  fallbacks : Nat := 0
deriving DecidableEq

inductive Event
  /-- The scrollback was full; `firstRow` is the oldest row that is left. -/
  | rowEvicted (firstRow : Nat)
  /-- The chain of row `row` begins `limit` rows or more above it. -/
  | paragraphStartNotFound (row limit : Nat)
  /-- The chain that begins at `row` has more than `limit` rows. -/
  | paragraphOverlong (row limit : Nat)
  /-- The paragraph that begins at `row` has no analysis. -/
  | analysisFailed (row : Nat) (error : ClassifyError)
  /-- The line on `row` has no visual order. -/
  | lineOrderFailed (row : Nat) (error : ClassifyError)
  /-- A viewport cannot use the limit it was asked for at its width. -/
  | viewportLimitClamped (requested clamped width : Nat)
  /-- The viewport holds `capacity` row maps from now on. -/
  | rowMapsGrown (capacity : Nat)
  | passCompleted (start size width : Nat) (stats : PassStats)
  /-- The settings cannot use the limit that was written for this context. -/
  | settingsLimitClamped (raw clamped most columns rows : Nat)
  /-- The settings file was not understood; the defaults hold. -/
  | settingsRejected
deriving DecidableEq

namespace Event

def severity : Event → Severity
  | rowEvicted .. | rowMapsGrown .. | passCompleted .. => .trace
  | paragraphStartNotFound .. | paragraphOverlong .. | analysisFailed .. | lineOrderFailed ..
  | viewportLimitClamped .. => .debug
  | settingsLimitClamped .. => .info
  | settingsRejected => .warn

/-- The part of the library the event comes from. -/
def target : Event → String
  | rowEvicted .. => "ring"
  | paragraphStartNotFound .. | paragraphOverlong .. | analysisFailed ..
  | lineOrderFailed .. => "bidi.paragraph"
  | viewportLimitClamped .. | rowMapsGrown .. | passCompleted .. => "bidi.ringview"
  | settingsLimitClamped .. | settingsRejected => "config"

def message : Event → String
  | rowEvicted .. => "row_evicted"
  | paragraphStartNotFound .. => "paragraph_start_not_found"
  | paragraphOverlong .. => "paragraph_overlong_fallback"
  | analysisFailed .. => "classify_failed_fallback"
  | lineOrderFailed .. => "line_reorder_failed"
  | viewportLimitClamped .. | settingsLimitClamped .. => "paragraph_length_max_clamped"
  | rowMapsGrown .. => "row_maps_grown"
  | passCompleted .. => "recompute"
  | settingsRejected => "config_parse_failed"

def fields : Event → List (String × FieldValue)
  | rowEvicted firstRow => [("first", .number firstRow)]
  | paragraphStartNotFound row limit | paragraphOverlong row limit =>
    [("row", .number row), ("max", .number limit)]
  | analysisFailed row error | lineOrderFailed row error =>
    [("row", .number row), ("error", .text error.message)]
  | viewportLimitClamped requested clamped width =>
    [("requested", .number requested), ("clamped", .number clamped), ("width", .number width)]
  | rowMapsGrown capacity => [("alloc", .number capacity)]
  | passCompleted start size width stats =>
    [("start", .number start), ("len", .number size), ("width", .number width),
      ("paragraphs", .number stats.paragraphs), ("rows_read", .number stats.rowsRead),
      ("fallbacks", .number stats.fallbacks)]
  | settingsLimitClamped raw clamped most columns rows =>
    [("raw", .number raw), ("clamped", .number clamped), ("max", .number most),
      ("viewport_columns", .number columns), ("viewport_rows", .number rows)]
  | settingsRejected => []

end Event

end BidiViewport
