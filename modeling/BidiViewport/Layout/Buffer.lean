import BidiViewport.Layout.Line

/-!
# Reading the rows of a paragraph

The rows of a paragraph are read into one buffer: its characters, the columns that each of
them fills, and which of them are on which row.  Reading a row only adds to the buffer, with
one exception: a fragment widens the last character of all.  That this one is on the same row
is up to a flag that every row begins without.

`ParagraphBuffer.pushRow_eq`: a row is read as the line that it is by itself.  So the lines of
the buffer are those of its rows (`ParagraphBuffer.lines_read`).
-/

namespace BidiViewport

/-- Where the characters of one row are in a buffer. -/
structure LineSlice where
  /-- The first character. -/
  first : Nat
  /-- The character behind the last one. -/
  stop : Nat
  /-- The columns that have cells. -/
  used : Nat
deriving DecidableEq

/-- The rows of a paragraph as they are read. -/
structure ParagraphBuffer where
  chars : Array Char := #[]
  /-- The first column of each character and the number of its columns. -/
  units : Array (Nat × Nat) := #[]
  slices : Array LineSlice := #[]
deriving DecidableEq

namespace ParagraphBuffer

/-- A character at a column, as wide as the one cell that was read of it. -/
def pushChar (buffer : ParagraphBuffer) (char : Char) (column : Nat) : ParagraphBuffer :=
  { buffer with chars := buffer.chars.push char, units := buffer.units.push (column, 1) }

/-- One more column for the last character, if there is one. -/
def widenLast (buffer : ParagraphBuffer) : ParagraphBuffer :=
  match buffer.units.back? with
  | some (column, columns) =>
    { buffer with units := buffer.units.pop.push (column, columns + 1) }
  | none => buffer

/-- Reads the cells of a row from a column on.  Once a leader was seen in the row, a fragment
belongs to the last character. -/
def pushCells (buffer : ParagraphBuffer) (leaderSeen : Bool) (column : Nat) :
    List Cell → ParagraphBuffer
  | [] => buffer
  | .leader base _ _ :: rest =>
    (buffer.pushChar (CellSpan.analysed base) column).pushCells true (column + 1) rest
  | .fragment _ :: rest =>
    if leaderSeen then buffer.widenLast.pushCells true (column + 1) rest
    else (buffer.pushChar ' ' column).pushCells false (column + 1) rest

/-- Reads the first `width` columns of a row. -/
def pushRow (buffer : ParagraphBuffer) (row : Row) (width : Nat) : ParagraphBuffer :=
  let used := min row.size width
  let filled := buffer.pushCells false 0 (row.cells.toList.take used)
  { filled with slices := filled.slices.push ⟨buffer.chars.size, filled.chars.size, used⟩ }

/-- Rows that are read one after another, each at its width. -/
def read (rows : List (Row × Nat)) : ParagraphBuffer :=
  rows.foldl (fun buffer row => buffer.pushRow row.1 row.2) {}

/-- The units of a slice. -/
def unitsIn (buffer : ParagraphBuffer) (slice : LineSlice) : Array (Nat × Nat) :=
  buffer.units.extract slice.first slice.stop

/-- The line of a slice. -/
def line (buffer : ParagraphBuffer) (slice : LineSlice) : Line where
  spans := (buffer.chars.extract slice.first slice.stop).zipWith
    (fun char unit => ⟨char, unit.1, unit.2⟩) (buffer.unitsIn slice)
  used := slice.used

def lines (buffer : ParagraphBuffer) : List Line :=
  buffer.slices.toList.map buffer.line

/-! ## Reading one row -/

/-- The buffer with characters behind those it has. -/
def append (buffer : ParagraphBuffer) (spans : List CellSpan) : ParagraphBuffer :=
  { buffer with
    chars := buffer.chars ++ (spans.map (·.char)).toArray
    units := buffer.units ++ (spans.map CellSpan.unit).toArray }

theorem append_append (buffer : ParagraphBuffer) (a b : List CellSpan) :
    (buffer.append a).append b = buffer.append (a ++ b) := by
  simp [append]

theorem pushChar_eq (buffer : ParagraphBuffer) (char : Char) (column : Nat) :
    buffer.pushChar char column = buffer.append [⟨char, column, 1⟩] := by
  simp [pushChar, append, CellSpan.unit]

theorem widenLast_append (buffer : ParagraphBuffer) (last : CellSpan) :
    (buffer.append [last]).widenLast =
      buffer.append [{ last with columns := last.columns + 1 }] := by
  simp [widenLast, append, CellSpan.unit]

/-- Behind a leader, the fragments that come first belong to its character. -/
theorem pushCells_led (buffer : ParagraphBuffer) (last : CellSpan) (column : Nat)
    (cells : List Cell) :
    (buffer.append [last]).pushCells true column cells =
      buffer.append ({ last with columns := last.columns + CellSpan.fragmentRun cells } ::
        CellSpan.leadersFrom column cells) := by
  -- With the next leader, the character before it goes to the buffer and is not widened again.
  induction cells generalizing buffer last column with
  | nil => rfl
  | cons cell rest ih =>
    cases cell with
    | leader base marks columns =>
      rw [pushCells, pushChar_eq, ih, append_append, CellSpan.leadersFrom,
        CellSpan.fragmentRun_leader, Nat.add_comm 1]
      rfl
    | fragment columns =>
      rw [pushCells, if_pos rfl, widenLast_append, ih, CellSpan.leadersFrom,
        CellSpan.fragmentRun_fragment, Nat.add_comm (CellSpan.fragmentRun rest) 1, ← Nat.add_assoc]

/-- Until a leader comes, each fragment is a character of its own. -/
theorem pushCells_orphans (buffer : ParagraphBuffer) (column : Nat) (cells : List Cell) :
    buffer.pushCells false column cells =
      buffer.append ((List.range' column (CellSpan.fragmentRun cells)).map (⟨' ', ·, 1⟩) ++
        CellSpan.leadersFrom column cells) := by
  induction cells generalizing buffer column with
  | nil => simp [pushCells, append, CellSpan.leadersFrom]
  | cons cell rest ih =>
    cases cell with
    | leader base marks columns =>
      rw [pushCells, pushChar_eq, pushCells_led, CellSpan.leadersFrom,
        CellSpan.fragmentRun_leader, Nat.add_comm 1]
      rfl
    | fragment columns =>
      rw [pushCells, if_neg Bool.false_ne_true, pushChar_eq, ih, append_append,
        CellSpan.leadersFrom, CellSpan.fragmentRun_fragment, List.range'_succ]
      rfl

/-- The buffer with a line behind those it has. -/
def pushLine (buffer : ParagraphBuffer) (line : Line) : ParagraphBuffer :=
  { buffer.append line.spans.toList with
    slices := buffer.slices.push
      ⟨buffer.chars.size, buffer.chars.size + line.spans.size, line.used⟩ }

/-- A row is read as the line that it is by itself, whatever was read before. -/
theorem pushRow_eq (buffer : ParagraphBuffer) (row : Row) (width : Nat) :
    buffer.pushRow row width = buffer.pushLine (Line.ofRow width row) := by
  have htake : row.cells.toList.take (min row.size width) = row.cells.toList.take width := by
    rw [List.take_eq_take_min (i := width), Array.length_toList, Nat.min_comm]
    rfl
  have hcells : buffer.pushCells false 0 (row.cells.toList.take (min row.size width)) =
      buffer.append (Line.ofRow width row).spans.toList := by
    rw [pushCells_orphans, htake, ← List.range_eq_range']
    rfl
  unfold pushRow
  dsimp only
  rw [hcells]
  unfold pushLine
  have hsize : (buffer.append (Line.ofRow width row).spans.toList).chars.size =
      buffer.chars.size + (Line.ofRow width row).spans.size := by
    simp [append]
  rw [hsize]
  rfl

/-! ## Reading many rows -/

/-- The slices of consecutive lines, the first of which begins at the character `start`. -/
def slicesFrom (start : Nat) : List Line → List LineSlice
  | [] => []
  | line :: rest =>
    ⟨start, start + line.spans.size, line.used⟩ :: slicesFrom (start + line.spans.size) rest

theorem slicesFrom_append (start : Nat) (a b : List Line) :
    slicesFrom start (a ++ b) =
      slicesFrom start a ++ slicesFrom (start + (a.flatMap Line.text).length) b := by
  induction a generalizing start with
  | nil => rfl
  | cons line rest ih =>
    rw [List.cons_append, slicesFrom, slicesFrom, ih, List.cons_append, List.flatMap_cons,
      List.length_append, Line.length_text, Nat.add_assoc]

/-- The buffer has these lines, one behind the other, and nothing else. -/
structure Holds (buffer : ParagraphBuffer) (lines : List Line) : Prop where
  chars_eq : buffer.chars.toList = lines.flatMap Line.text
  units_eq : buffer.units.toList = lines.flatMap Line.units
  slices_eq : buffer.slices.toList = slicesFrom 0 lines

namespace Holds

variable {buffer : ParagraphBuffer} {lines : List Line}

theorem empty : Holds {} [] := ⟨rfl, rfl, rfl⟩

theorem pushLine (h : buffer.Holds lines) (line : Line) :
    (buffer.pushLine line).Holds (lines ++ [line]) := by
  have hsize : buffer.chars.size = (lines.flatMap Line.text).length := by
    rw [← h.chars_eq, Array.length_toList]
  refine ⟨?_, ?_, ?_⟩
  · simp [ParagraphBuffer.pushLine, append, h.chars_eq, Line.text]
  · simp [ParagraphBuffer.pushLine, append, h.units_eq, Line.units]
  · rw [slicesFrom_append, ← hsize, Nat.zero_add, ← h.slices_eq]
    simp [ParagraphBuffer.pushLine, slicesFrom]

theorem pushRows (h : buffer.Holds lines) (rows : List (Row × Nat)) :
    (rows.foldl (fun buffer row => buffer.pushRow row.1 row.2) buffer).Holds
      (lines ++ rows.map fun row => Line.ofRow row.2 row.1) := by
  induction rows generalizing buffer lines with
  | nil => rwa [List.map_nil, List.append_nil]
  | cons row rest ih =>
    have hrow : (buffer.pushRow row.1 row.2).Holds (lines ++ [Line.ofRow row.2 row.1]) := by
      rw [pushRow_eq]
      exact h.pushLine _
    have hrest := ih hrow
    rwa [List.append_assoc] at hrest

variable {before after : List Line} {line : Line}

theorem toList_unitsIn (h : buffer.Holds (before ++ line :: after)) (used : Nat) :
    let first := (before.flatMap Line.text).length
    (buffer.unitsIn ⟨first, first + line.spans.size, used⟩).toList = line.units := by
  intro first
  have hfirst : first = (before.flatMap Line.units).length := by
    simp [first, Line.text, Line.units, List.length_flatMap]
  have hsize : line.spans.size = line.units.length := by simp [Line.units]
  unfold unitsIn
  dsimp only
  rw [Array.toList_extract, List.extract_eq_take_drop, h.units_eq, List.flatMap_append,
    List.flatMap_cons, Nat.add_sub_cancel_left, List.drop_left' hfirst.symm,
    List.take_left' hsize.symm]

/-- A slice of the buffer is the line that was read there. -/
theorem line_eq (h : buffer.Holds (before ++ line :: after)) :
    let first := (before.flatMap Line.text).length
    buffer.line ⟨first, first + line.spans.size, line.used⟩ = line := by
  intro first
  have hchars : (buffer.chars.extract first (first + line.spans.size)).toList = line.text := by
    rw [Array.toList_extract, List.extract_eq_take_drop, h.chars_eq, List.flatMap_append,
      List.flatMap_cons, Nat.add_sub_cancel_left, List.drop_left' rfl,
      List.take_left' line.length_text]
  unfold ParagraphBuffer.line
  dsimp only
  congr 1
  apply Array.toList_inj.1
  rw [Array.toList_zipWith, hchars, h.toList_unitsIn]
  simp [Line.text, Line.units, CellSpan.unit, List.zipWith_map]

/-- The slices behind those of `before` are the other lines. -/
theorem map_line_slicesFrom {rest : List Line} (h : buffer.Holds (before ++ rest)) :
    (slicesFrom (before.flatMap Line.text).length rest).map buffer.line = rest := by
  induction rest generalizing before with
  | nil => rfl
  | cons line rest ih =>
    have hrest : (slicesFrom ((before ++ [line]).flatMap Line.text).length rest).map buffer.line =
        rest := by
      refine ih ?_
      rwa [List.append_assoc]
    rw [List.flatMap_append, List.length_append, List.flatMap_singleton, Line.length_text] at hrest
    rw [slicesFrom, List.map_cons, hrest, h.line_eq]

theorem lines_eq (h : buffer.Holds lines) : buffer.lines = lines := by
  unfold ParagraphBuffer.lines
  rw [h.slices_eq]
  exact @map_line_slicesFrom buffer [] lines h

end Holds

/-- Rows are read as the lines that they are by themselves. -/
theorem holds_read (rows : List (Row × Nat)) :
    (read rows).Holds (rows.map fun row => Line.ofRow row.2 row.1) :=
  Holds.empty.pushRows rows

theorem lines_read (width : Nat) (rows : List Row) :
    (read (rows.map (·, width))).lines = rows.map (Line.ofRow width) := by
  rw [(holds_read _).lines_eq, List.map_map]
  rfl

theorem chars_read (width : Nat) (rows : List Row) :
    (read (rows.map (·, width))).chars.toList =
      (rows.map (Line.ofRow width)).flatMap Line.text := by
  rw [(holds_read _).chars_eq, List.map_map]
  rfl

end ParagraphBuffer

end BidiViewport
