import BidiViewport.Event
import BidiViewport.Layout.Buffer
import BidiViewport.Layout.Chain
import BidiViewport.Shaping.Shape

/-!
# Laying out one paragraph

Laying out never fails.  A paragraph that does not ask for the bidirectional algorithm,
or cannot have it, is laid out straight in its declared direction (`StraightCause` says
why).  Any other is analysed as a whole, and each of its rows is ordered by itself, so
that a row whose order fails leaves its neighbours alone.
-/

namespace BidiViewport

/-- All that a layout depends on, beside the rows themselves. -/
structure Frame where
  classifier : Classifier
  start : Nat := 0
  size : Nat := 0
  /-- The width of the rows in columns. -/
  width : Nat := 0
  /-- The most rows that a paragraph may have to be analysed. -/
  limit : Nat
  /-- Substitute the presentation forms of joined letters. -/
  shaping : Bool := true

namespace Frame

def stop (frame : Frame) : Nat :=
  frame.start + frame.size

def shows (frame : Frame) (row : Nat) : Bool :=
  frame.start ≤ row && row < frame.stop

end Frame

/-- Why a paragraph is laid out in its declared direction. -/
inductive StraightCause
  | missing
  /-- The row does not ask for the bidirectional algorithm. -/
  | explicit
  /-- The classifier cannot reorder. -/
  | unavailable
  /-- The paragraph has too many rows. -/
  | overlong
  /-- The paragraph has no characters. -/
  | blank
  /-- The classifier has no analysis. -/
  | failed (error : ClassifyError)
deriving DecidableEq

namespace StraightCause

/-- The paragraph asked for the bidirectional algorithm in vain. -/
def isFallback : StraightCause → Bool
  | missing | explicit | blank => false
  | unavailable | overlong | failed _ => true

/-- What is reported of a paragraph that begins at `row`. -/
def events (row limit : Nat) : StraightCause → List Event
  | missing | explicit | unavailable | blank => []
  | overlong => [.paragraphOverlong row limit]
  | failed error => [.analysisFailed row error]

end StraightCause

/-- How a paragraph will be laid out. -/
inductive Verdict
  | straight (direction : Direction) (cause : StraightCause)
  | analysed (lines : List Line) (analysis : Analysis)

/-- A text handed to a classifier and the direction asked for. -/
structure AnalysisCall where
  text : List Char
  base : ParagraphBase
deriving DecidableEq

/-- A paragraph that was read and analysed, before its rows are laid out. -/
structure PreparedParagraph where
  verdict : Verdict
  call? : Option AnalysisCall := none
  reads : List Nat

/-- A paragraph whose rows are laid out. -/
structure ParagraphLayout where
  /-- The layouts of its rows from the first one on. -/
  layouts : List RowLayout
  /-- It asked for the bidirectional algorithm in vain. -/
  isFallback : Bool := false
  call? : Option AnalysisCall := none
  reads : List Nat
  events : List Event := []

namespace Frame

/-- The glyphs of a paragraph's joined letters.  Only right-to-left text has any. -/
def glyphs (frame : Frame) (text : List Char) (analysis : Analysis) : List (Nat × Char) :=
  let levels := analysis.levels.toList
  if frame.shaping && levels.any (· % 2 = 1) then shape (text.zip levels) else []

/-- Reads and analyses the paragraph that begins at `row`. -/
def prepare (frame : Frame) (source : RowSource) (row : Nat) : PreparedParagraph :=
  match source.rowAt row with
  | none => { verdict := .straight .ltr .missing, reads := [row] }
  | some first =>
    let declared := first.flags.declared
    match first.flags.mode.base? with
    | none => { verdict := .straight declared .explicit, reads := [row] }
    | some base =>
      if !frame.classifier.isAvailable then
        { verdict := .straight declared .unavailable, reads := [row] }
      else
        let chain := Chain.tail source frame.limit row
        let buffer := ParagraphBuffer.read (chain.rows.map (·, frame.width))
        let text := buffer.chars.toList
        let reads := row :: chain.reads
        if chain.isOverlong then { verdict := .straight declared .overlong, reads }
        else if text.isEmpty then { verdict := .straight declared .blank, reads }
        else
          { verdict :=
              match frame.classifier.analyze text base with
              | .ok analysis => .analysed buffer.lines analysis
              | .error error => .straight declared (.failed error)
            call? := some { text, base }
            reads }

/-! ### What becomes of a paragraph -/

/-- The paragraph at `row` asks an available classifier, and these are the lines that are
read of it. -/
structure Asks (frame : Frame) (source : RowSource) (row : Nat) (content : Row)
    (base : ParagraphBase) (lines : List Line) : Prop where
  rowAt : source.rowAt row = some content
  base? : content.flags.mode.base? = some base
  isAvailable : frame.classifier.isAvailable = true
  lines_eq : lines = (Chain.tail source frame.limit row).rows.map (Line.ofRow frame.width)

/-- The ways in which a paragraph is prepared, each with the tests that lead to it. -/
inductive Prepares (frame : Frame) (source : RowSource) (row : Nat) : PreparedParagraph → Prop
  | missing (hrow : source.rowAt row = none) :
      Prepares frame source row { verdict := .straight .ltr .missing, reads := [row] }
  | explicit {content : Row} (hrow : source.rowAt row = some content)
      (hbase : content.flags.mode.base? = none) :
      Prepares frame source row
        { verdict := .straight content.flags.declared .explicit, reads := [row] }
  | unavailable {content : Row} (hrow : source.rowAt row = some content)
      (havailable : frame.classifier.isAvailable = false) :
      Prepares frame source row
        { verdict := .straight content.flags.declared .unavailable, reads := [row] }
  | overlong {content : Row} {base : ParagraphBase} {lines : List Line}
      (hasks : frame.Asks source row content base lines)
      (hlong : (Chain.tail source frame.limit row).isOverlong = true) :
      Prepares frame source row
        { verdict := .straight content.flags.declared .overlong
          reads := row :: (Chain.tail source frame.limit row).reads }
  | blank {content : Row} {base : ParagraphBase} {lines : List Line}
      (hasks : frame.Asks source row content base lines)
      (hshort : (Chain.tail source frame.limit row).isOverlong = false)
      (hblank : lines.flatMap Line.text = []) :
      Prepares frame source row
        { verdict := .straight content.flags.declared .blank
          reads := row :: (Chain.tail source frame.limit row).reads }
  | failed {content : Row} {base : ParagraphBase} {lines : List Line} {error : ClassifyError}
      (hasks : frame.Asks source row content base lines)
      (hshort : (Chain.tail source frame.limit row).isOverlong = false)
      (htext : lines.flatMap Line.text ≠ [])
      (hanalysis : frame.classifier.analyze (lines.flatMap Line.text) base = .error error) :
      Prepares frame source row
        { verdict := .straight content.flags.declared (.failed error)
          call? := some { text := lines.flatMap Line.text, base }
          reads := row :: (Chain.tail source frame.limit row).reads }
  | analysed {content : Row} {base : ParagraphBase} {lines : List Line} {analysis : Analysis}
      (hasks : frame.Asks source row content base lines)
      (hshort : (Chain.tail source frame.limit row).isOverlong = false)
      (htext : lines.flatMap Line.text ≠ [])
      (hanalysis : frame.classifier.analyze (lines.flatMap Line.text) base = .ok analysis) :
      Prepares frame source row
        { verdict := .analysed lines analysis
          call? := some { text := lines.flatMap Line.text, base }
          reads := row :: (Chain.tail source frame.limit row).reads }

theorem prepares (frame : Frame) (source : RowSource) (row : Nat) :
    frame.Prepares source row (frame.prepare source row) := by
  unfold prepare
  simp only [ParagraphBuffer.chars_read, ParagraphBuffer.lines_read]
  cases hrow : source.rowAt row with
  | none => exact .missing hrow
  | some content =>
    dsimp only
    cases hbase : content.flags.mode.base? with
    | none => exact .explicit hrow hbase
    | some base =>
      dsimp only
      cases havailable : frame.classifier.isAvailable with
      | false => exact .unavailable hrow havailable
      | true =>
        have hasks : frame.Asks source row content base _ := ⟨hrow, hbase, havailable, rfl⟩
        rw [if_neg (by exact Bool.false_ne_true)]
        split
        · next hlong => exact .overlong hasks hlong
        · next hlong =>
          have hshort := Bool.eq_false_iff.2 hlong
          split
          · next hblank => exact .blank hasks hshort (List.isEmpty_iff.1 hblank)
          · next htext =>
            have htext := mt List.isEmpty_iff.2 htext
            split
            · next hanalysis => exact .analysed hasks hshort htext hanalysis
            · next hanalysis => exact .failed hasks hshort htext hanalysis

/-- The layouts of the lines of an analysed paragraph, or why a line has none. -/
def orderedLines (frame : Frame) (lines : List Line) (analysis : Analysis) :
    List (Except ClassifyError RowLayout) :=
  Line.layoutsFrom frame.width analysis 0 (frame.glyphs (lines.flatMap Line.text) analysis) lines

/-- A line without an order is straight in the direction of its paragraph. -/
def orElseStraight (analysis : Analysis) : Except ClassifyError RowLayout → RowLayout
  | .ok layout => layout
  | .error _ => { direction := analysis.direction, hasForeign := true }

/-- What is reported of the lines of a paragraph, the first of which is on `row`.  Only
visible rows are reported. -/
def lineEvents (frame : Frame) (row : Nat) : List (Except ClassifyError RowLayout) → List Event
  | [] => []
  | line :: rest =>
    let own := match line with
      | .error error => if frame.shows row then [.lineOrderFailed row error] else []
      | .ok _ => []
    own ++ frame.lineEvents (row + 1) rest

/-- Lays out the paragraph that begins at `row`.  An analysed paragraph is laid out to
its end, a straight one to the end of the viewport. -/
def layoutParagraph (frame : Frame) (source : RowSource) (row : Nat) : ParagraphLayout :=
  let prepared := frame.prepare source row
  match prepared.verdict with
  | .straight direction cause =>
    let walked := Chain.walk source (frame.stop - row) row
    { layouts := walked.map fun _ => { direction }
      isFallback := cause.isFallback
      call? := prepared.call?
      reads := prepared.reads ++ walked
      events := cause.events row frame.limit }
  | .analysed lines analysis =>
    let ordered := frame.orderedLines lines analysis
    { layouts := ordered.map (orElseStraight analysis)
      call? := prepared.call?
      reads := prepared.reads
      events := frame.lineEvents row ordered }

end Frame

end BidiViewport
