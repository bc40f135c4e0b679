import BidiViewport.Classifier.Basic
import BidiViewport.Grid.Row
import BidiViewport.Layout.RowLayout
import BidiViewport.Text.BidiClassTable

/-!
# The lines of a paragraph

A paragraph is analysed as a text with one character for each group of cells: a
leader with the fragments that follow it, or a fragment without a leader, which stands
for a space.  A line is the part of the paragraph on one row.  Its characters come back
from the analysis in visual order and are spread over their columns again; the columns
that no character uses are on the side where the text ends.
-/

namespace BidiViewport

/-- A character of a paragraph and the columns of its row that it fills. -/
structure CellSpan where
  char : Char
  /-- The first column. -/
  column : Nat
  /-- The number of columns. -/
  columns : Nat
deriving DecidableEq, Inhabited

namespace CellSpan

/-- A character of the row as a unit of cells. -/
def unit (span : CellSpan) : Nat × Nat :=
  (span.column, span.columns)

/-- A paragraph separator in a cell does not end the paragraph: it counts as a space. -/
def analysed (c : Char) : Char :=
  if isParagraphSeparator c then ' ' else c

/-- The number of fragments that a sequence of cells begins with. -/
def fragmentRun (cells : List Cell) : Nat :=
  (cells.takeWhile Cell.isFragment).length

@[simp] theorem fragmentRun_nil : fragmentRun [] = 0 := rfl

@[simp] theorem fragmentRun_leader (base : Char) (marks : List Char) (columns : Nat)
    (rest : List Cell) : fragmentRun (.leader base marks columns :: rest) = 0 := rfl

@[simp] theorem fragmentRun_fragment (columns : Nat) (rest : List Cell) :
    fragmentRun (.fragment columns :: rest) = fragmentRun rest + 1 := rfl

/-- The leaders among the cells, the first of which is at `column`, each with the
fragments that follow it. -/
def leadersFrom (column : Nat) : List Cell → List CellSpan
  | [] => []
  | .leader base _ _ :: rest =>
    ⟨analysed base, column, fragmentRun rest + 1⟩ :: leadersFrom (column + 1) rest
  | .fragment _ :: rest => leadersFrom (column + 1) rest

/-- The cells of a row as characters. -/
def ofCells (cells : List Cell) : List CellSpan :=
  (List.range (fragmentRun cells)).map (⟨' ', ·, 1⟩) ++ leadersFrom 0 cells

/-- The columns of a character from left to right when it is drawn in a direction. -/
def drawn (span : CellSpan) (direction : Direction) : List (Nat × Direction) :=
  let ascending := (List.range' span.column span.columns).map (·, direction)
  match direction with
  | .ltr => ascending
  | .rtl => ascending.reverse

end CellSpan

/-- The part of a paragraph on one row. -/
structure Line where
  spans : Array CellSpan
  /-- The columns that have cells. -/
  used : Nat
deriving DecidableEq

namespace Line

/-- The first `width` columns of a row. -/
def ofRow (width : Nat) (row : Row) : Line where
  spans := (CellSpan.ofCells (row.cells.toList.take width)).toArray
  used := min row.size width

/-- The characters of the line. -/
def text (line : Line) : List Char :=
  line.spans.toList.map (·.char)

theorem length_text (line : Line) : line.text.length = line.spans.size := by
  simp [text]

/-- The units of a line from left to right. -/
def units (line : Line) : List (Nat × Nat) :=
  line.spans.toList.map CellSpan.unit

/-- The columns of the characters in a visual order. -/
def content (line : Line) (order : LineOrder) : List (Nat × Direction) :=
  order.visual.toList.flatMap fun i =>
    match line.spans[i]? with
    | some span => span.drawn (.ofLevel (order.levels[i]?.getD 0))
    | none => []

/-- The unused columns on the left. -/
def leftPadding (line : Line) (width : Nat) : Direction → List (Nat × Direction)
  | .ltr => []
  | .rtl => (List.range (width - line.used)).map fun visual => (width - 1 - visual, .rtl)

/-- The logical column and the direction of each visual column of the line. -/
def columns (line : Line) (width : Nat) (direction : Direction) (order : LineOrder) :
    List (Nat × Direction) :=
  let left := line.leftPadding width direction ++ line.content order
  left ++ (List.range' left.length (width - left.length)).map (·, .ltr)

/-- The glyphs of the line's characters at their columns, when the line begins at the
character `start` of the paragraph. -/
def columnGlyphs (line : Line) (start : Nat) (glyphs : List (Nat × Char)) : List (Nat × Char) :=
  glyphs.filterMap fun (i, glyph) => line.spans[i - start]?.map fun span => (span.column, glyph)

/-- The layout of a line that begins at the character `start` of the paragraph, with
glyphs for some of its columns.  A paragraph without foreign characters is straight, and
is spelt out only to hold glyphs. -/
def layout (line : Line) (width : Nat) (analysis : Analysis) (start : Nat)
    (glyphs : List (Nat × Char)) : Except ClassifyError RowLayout :=
  if analysis.isSingle then
    .ok
      { direction := analysis.direction
        arrangement :=
          if glyphs.isEmpty then .straight
          else .ordered (RowLayout.straightColumns width analysis.direction) glyphs }
  else
    (analysis.reorder start (start + line.spans.size)).map fun order =>
      { direction := analysis.direction
        hasForeign := true
        arrangement := .ordered (line.columns width analysis.direction order) glyphs }

/-- The layouts of consecutive lines, the first of which begins at the character
`start` of the paragraph, with the glyphs of the paragraph from there on. -/
def layoutsFrom (width : Nat) (analysis : Analysis) (start : Nat) (glyphs : List (Nat × Char)) :
    List Line → List (Except ClassifyError RowLayout)
  | [] => []
  | line :: rest =>
    let stop := start + line.spans.size
    let (own, later) := glyphs.span (·.1 < stop)
    line.layout width analysis start (line.columnGlyphs start own) ::
      layoutsFrom width analysis stop later rest

end Line

end BidiViewport
