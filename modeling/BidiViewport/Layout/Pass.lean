import BidiViewport.Layout.Paragraph

/-!
# A layout pass

A pass lays out the visible rows paragraph by paragraph.  It begins at the first row of
the paragraph that the first visible row belongs to, when that is near enough, so rows
above the viewport are read, but get no layout of their own.  A pass is a value: the
layouts of the visible rows and an account of the work done for them.

`length_layouts_pos`: every paragraph has a row, so a pass ends.
-/

namespace BidiViewport

namespace Line

@[simp] theorem length_layoutsFrom (width : Nat) (analysis : Analysis) (start : Nat)
    (glyphs : List (Nat × Char)) (lines : List Line) :
    (layoutsFrom width analysis start glyphs lines).length = lines.length := by
  induction lines generalizing start glyphs with
  | nil => rfl
  | cons line rest ih => simp [layoutsFrom, ih]

end Line

namespace Frame

theorem lines_ne_nil_of_prepare {frame : Frame} {source : RowSource} {row : Nat}
    {lines : List Line} {analysis : Analysis}
    (h : (frame.prepare source row).verdict = .analysed lines analysis) : lines ≠ [] := by
  have hprepares := frame.prepares source row
  generalize frame.prepare source row = prepared at h hprepares
  cases hprepares with
  | analysed _ _ htext _ =>
    cases h
    rintro rfl
    exact htext rfl
  | _ => cases h

/-- A paragraph that begins above the end of the viewport has a row. -/
theorem length_layouts_pos (frame : Frame) (source : RowSource) {row : Nat}
    (h : row < frame.stop) : 0 < (frame.layoutParagraph source row).layouts.length := by
  unfold layoutParagraph
  dsimp only
  split
  · simpa using Chain.length_walk_pos source row (by omega)
  · next lines analysis hv =>
    simp [orderedLines, List.length_pos_iff, lines_ne_nil_of_prepare hv]

/-- The paragraphs from `row` on that begin above the end of the viewport. -/
def paragraphsFrom (frame : Frame) (source : RowSource) (row : Nat) : List ParagraphLayout :=
  if h : row < frame.stop then
    let paragraph := frame.layoutParagraph source row
    have := frame.length_layouts_pos source h
    paragraph :: frame.paragraphsFrom source (row + paragraph.layouts.length)
  else []
termination_by frame.stop - row
decreasing_by
  have := frame.length_layouts_pos source h
  omega

/-- The first visible row asks for the bidirectional algorithm. -/
def seeksHead (frame : Frame) (source : RowSource) : Bool :=
  (source.rowAt frame.start).any (·.flags.implicit)

/-- The first row of the paragraph of the first visible row, when it is sought and
found. -/
def head? (frame : Frame) (source : RowSource) : Option Nat :=
  if frame.seeksHead source then Chain.head? source frame.limit frame.start else some frame.start

end Frame

structure Pass where
  layouts : List RowLayout
  stats : PassStats
  /-- The texts handed to the classifier, in order. -/
  calls : List AnalysisCall
  reads : List Nat
  events : List Event

namespace Frame

def pass (frame : Frame) (source : RowSource) : Pass :=
  let head := frame.head? source
  let first := head.getD frame.start
  let paragraphs := frame.paragraphsFrom source first
  let searched :=
    if frame.seeksHead source then Chain.headReads source frame.limit frame.start else []
  let reads := frame.start :: searched ++ paragraphs.flatMap (·.reads)
  let stats :=
    { paragraphs := paragraphs.length
      rowsRead := reads.length
      fallbacks := paragraphs.countP (·.isFallback) }
  let lost := if head.isNone then [.paragraphStartNotFound frame.start frame.limit] else []
  { layouts := ((paragraphs.flatMap (·.layouts)).drop (frame.start - first)).take frame.size
    stats
    calls := paragraphs.filterMap (·.call?)
    reads
    events := lost ++ paragraphs.flatMap (·.events) ++
      [.passCompleted frame.start frame.size frame.width stats] }

end Frame

end BidiViewport
