import Mathlib.Data.List.Forall2
import BidiViewport.Proofs.Layout.Leaders

/-!
# The rows in a buffer

The rows of a paragraph are read into one buffer, in which a fragment widens whatever character
is the last.  Each row comes out as if it had been read alone:

* its characters begin where those of the row before end (`Abut`);
* its units are those of its own cells, side by side (`ParagraphBuffer.Describes`);
* the leader that is looked up for a column is the one that the unit of the column begins with.

`ParagraphBuffer.describes_read` says this of all sequences of rows, also of rows with fragments
that no leader is before, or more or fewer than their leader asks for.
-/

namespace BidiViewport

/-- Ranges side by side, the first of which begins at `first` and the last ends at `stop`. -/
inductive Abut : (first stop : Nat) → List (Nat × Nat) → Prop
  | nil (place : Nat) : Abut place place []
  | cons {first next stop : Nat} {rest : List (Nat × Nat)} (hle : first ≤ next)
      (hrest : Abut next stop rest) : Abut first stop ((first, next) :: rest)

/-- Units that list columns without a gap stand side by side. -/
theorem abut_of_flatMap_range' {units : List (Nat × Nat)} {first count : Nat}
    (hpos : ∀ unit ∈ units, 0 < unit.2)
    (h : units.flatMap (fun unit => List.range' unit.1 unit.2) = List.range' first count) :
    Abut first (first + count) (units.map fun unit => (unit.1, unit.1 + unit.2)) := by
  induction units generalizing first count with
  | nil =>
    obtain rfl : count = 0 := List.range'_eq_nil_iff.1 h.symm
    exact .nil first
  | cons unit rest ih =>
    obtain ⟨column, columns⟩ := unit
    have hunit : 0 < columns := hpos _ List.mem_cons_self
    rw [List.flatMap_cons] at h
    have hle : columns ≤ count := by
      have hlength := congrArg List.length h
      rw [List.length_append, List.length_range', List.length_range'] at hlength
      omega
    -- The columns of this unit come first, and the other units list the rest.
    obtain ⟨later, rfl⟩ := Nat.exists_eq_add_of_le hle
    rw [← List.range'_append_1] at h
    obtain ⟨hfirst, hrest⟩ := List.append_inj h (by simp)
    obtain rfl : column = first := by
      cases columns with
      | zero => exact absurd hunit (Nat.lt_irrefl 0)
      | succ columns => exact (List.cons.inj hfirst).1
    refine .cons (Nat.le_add_right _ _) ?_
    rw [← Nat.add_assoc]
    exact ih (fun unit hmem => hpos unit (List.mem_cons_of_mem _ hmem)) hrest

namespace ParagraphBuffer

theorem abut_slicesFrom (start : Nat) (lines : List Line) :
    Abut start (start + (lines.flatMap Line.text).length)
      ((slicesFrom start lines).map fun slice => (slice.first, slice.stop)) := by
  induction lines generalizing start with
  | nil => exact .nil start
  | cons line rest ih =>
    rw [List.flatMap_cons, List.length_append, Line.length_text, ← Nat.add_assoc]
    exact .cons (Nat.le_add_right _ _) (ih _)

theorem Holds.size_eq {buffer : ParagraphBuffer} {lines : List Line} (h : buffer.Holds lines) :
    buffer.units.size = buffer.chars.size := by
  rw [← Array.length_toList, ← Array.length_toList, h.units_eq, h.chars_eq]
  simp [List.length_flatMap, Line.text, Line.units]

/-- The units of a slice are those of its line. -/
theorem units_line {buffer : ParagraphBuffer} (h : buffer.units.size = buffer.chars.size)
    (slice : LineSlice) : (buffer.line slice).units = (buffer.unitsIn slice).toList := by
  have hlength : (buffer.unitsIn slice).toList.length ≤
      (buffer.chars.extract slice.first slice.stop).toList.length := by
    simp [unitsIn, h]
  unfold Line.units line
  rw [Array.toList_zipWith, List.map_zipWith]
  calc List.zipWith (fun _ unit => unit) _ (buffer.unitsIn slice).toList
      = (List.zip _ (buffer.unitsIn slice).toList).map Prod.snd :=
        (List.map_uncurry_zip_eq_zipWith ..).symm
    _ = (buffer.unitsIn slice).toList := List.map_snd_zip hlength

/-- What a buffer says of a row of which it has the first `width` columns. -/
structure Describes (buffer : ParagraphBuffer) (slice : LineSlice) (row : Row) (width : Nat) :
    Prop where
  used_eq : slice.used = min row.size width
  /-- The units are those of the cells of the row, from left to right. -/
  listsUnits : Cell.ListsUnits (row.shownCells width) (buffer.unitsIn slice).toList
  abut : Abut 0 slice.used
    ((buffer.unitsIn slice).toList.map fun unit => (unit.1, unit.1 + unit.2))
  pos : ∀ unit ∈ (buffer.unitsIn slice).toList, 0 < unit.2
  /-- Each column is in a unit, and its leader is the one that the unit begins with, if it begins
  with one. -/
  leader : ∀ column < slice.used, ∃ unit ∈ (buffer.unitsIn slice).toList,
    (unit.1 ≤ column ∧ column < unit.1 + unit.2) ∧ row.leaderColumn? column =
      if Cell.leaderAt (row.shownCells width) unit.1 then some unit.1 else none

theorem describes_of_line_eq {buffer : ParagraphBuffer} {slice : LineSlice} {row : Row}
    {width : Nat} (hsize : buffer.units.size = buffer.chars.size)
    (hline : buffer.line slice = Line.ofRow width row) : buffer.Describes slice row width := by
  have hunits : (buffer.unitsIn slice).toList = (Line.ofRow width row).units := by
    rw [← units_line hsize, hline]
  have hused : slice.used = (Line.ofRow width row).used := congrArg Line.used hline
  have hlists := Line.listsUnits_ofRow width row
  have hpos : ∀ unit ∈ (Line.ofRow width row).units, 0 < unit.2 :=
    fun unit hunit => ((hlists.mem_iff _ _).1 hunit).count_pos
  refine ⟨hused, ?_, ?_, ?_, ?_⟩
  · rw [hunits]
    exact hlists
  · have hcolumns : (Line.ofRow width row).units.flatMap (fun unit => List.range' unit.1 unit.2) =
        List.range' 0 (Line.ofRow width row).used := by
      rw [Line.units, List.flatMap_map, ← List.range_eq_range']
      exact Line.flatMap_extent_ofRow width row
    have habut := abut_of_flatMap_range' hpos hcolumns
    rwa [Nat.zero_add, ← hused, ← hunits] at habut
  · rw [hunits]
    exact hpos
  · intro column hcolumn
    have hlt : column < (row.shownCells width).length := by
      rwa [Row.length_shownCells, ← show slice.used = min row.size width from hused]
    obtain ⟨first, count, hunit, hin⟩ := CellSpan.exists_isUnit hlt
    rw [hunits]
    exact ⟨(first, count), (hlists.mem_iff first count).2 hunit, hin,
      Row.leaderColumn?_eq_of_isUnit hunit hin.1 hin.2⟩

/-- However rows are read one after another, the buffer has as many units as characters, each
row has the characters behind those of the row before and units that are its own, and reading
more rows changes nothing of what was read. -/
theorem describes_read (rows : List (Row × Nat)) :
    let buffer := read rows
    buffer.units.size = buffer.chars.size ∧
      Abut 0 buffer.chars.size
        (buffer.slices.toList.map fun slice => (slice.first, slice.stop)) ∧
      List.Forall₂ (fun slice row => buffer.Describes slice row.1 row.2)
        buffer.slices.toList rows ∧
      ∀ later, buffer.units.toList <+: (read (rows ++ later)).units.toList := by
  intro buffer
  have hholds := holds_read rows
  refine ⟨hholds.size_eq, ?_, ?_, fun later => ?_⟩
  · have habut := abut_slicesFrom 0 (rows.map fun row => Line.ofRow row.2 row.1)
    rwa [Nat.zero_add, ← hholds.slices_eq, ← hholds.chars_eq, Array.length_toList] at habut
  · have hlines : buffer.slices.toList.map buffer.line =
        rows.map fun row => Line.ofRow row.2 row.1 := hholds.lines_eq
    rw [← List.forall₂_eq_eq_eq, List.forall₂_map_left_iff, List.forall₂_map_right_iff] at hlines
    exact hlines.imp fun _ _ => describes_of_line_eq hholds.size_eq
  · rw [hholds.units_eq, (holds_read _).units_eq, List.map_append, List.flatMap_append]
    exact List.prefix_append _ _

/-- The fragments at the start of the second row leave the first row alone. -/
example :
    let upper : Row := { cells := #[.leader 'a' [] 1, .leader 'b' [] 2], softWrapped := true }
    let lower : Row := { cells := #[.fragment 2, .fragment 2, .leader 'c' [] 1, .fragment 3] }
    (read [(upper, 2), (lower, 4)]).units = #[(0, 1), (1, 1), (0, 1), (1, 1), (2, 2)] := by
  decide

end ParagraphBuffer

end BidiViewport
