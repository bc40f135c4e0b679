import BidiViewport.Classifier.Unicode
import BidiViewport.Proofs.Layout.Alignment
import BidiViewport.Proofs.Viewport.History

/-!
# Alignment of recomputed rows

A row from left to right begins in the first column, a row from right to left in the last one, and
what the text leaves free is on the other side.  `RowMap.IsAligned` says this of a map, and
`Viewport.isAligned_recompute` of every visible row that is present: rows that were ordered,
rows that are spelt out for their glyphs, straight rows, empty rows in the middle of a paragraph
and rows that are filled.

The orders of the pass only have to pass the check of the maps, as those of every classifier that
keeps its promise do (`Frame.completes_of_wellFormed`).
-/

namespace BidiViewport

/-- The first `used` columns of the row are its text.  They are drawn where the text of the row
stands, all of them and nothing else.  Every other column, in the row or not, is at its own
place, in the direction of the row and without a glyph. -/
structure RowMap.IsAligned (map : RowMap) (used : Nat) : Prop where
  isTextColumn_iff : ∀ column : Int,
    RowLayout.IsTextColumn used map.width map.direction (map.toVisual column) ↔
      0 ≤ column ∧ column < used
  exists_column : ∀ visual : Int, RowLayout.IsTextColumn used map.width map.direction visual →
    ∃ column : Int, 0 ≤ column ∧ column < used ∧ map.toVisual column = visual
  toVisual : ∀ column : Int, ¬(0 ≤ column ∧ column < used) →
    map.toVisual column = RowLayout.straightColumn map.width map.direction column
  visualDirection : ∀ column : Int, ¬(0 ≤ column ∧ column < used) →
    map.visualDirection (map.toVisual column) = map.direction
  glyph? : ∀ column : Int, ¬(0 ≤ column ∧ column < used) →
    map.glyph? (map.toVisual column) = none

/-- A map is aligned when its layout leaves the columns without cells at rest. -/
theorem RowMap.Shows.isAligned {map : RowMap} {layout : RowLayout} {used : Nat}
    (h : map.Shows layout) (hbijection : layout.IsBijection map.width)
    (hrests : layout.RestsBeyond used map.width) (hle : used ≤ map.width) :
    map.IsAligned used := by
  refine ⟨?_, ?_, ?_, ?_, ?_⟩
  · intro column
    rw [h.direction, h.toVisual]
    exact hrests.toVisual_mem_text hbijection hle column
  · intro visual htext
    have hplace := RowLayout.toVisual_toLogical hbijection visual
    have hcolumn := hrests.toVisual_mem_text hbijection hle (layout.toLogical map.width visual)
    rw [hplace, ← h.direction] at hcolumn
    obtain ⟨hnonneg, hlt⟩ := hcolumn.1 htext
    exact ⟨_, hnonneg, hlt, (h.toVisual _).trans hplace⟩
  · intro column hbeyond
    rw [h.direction, h.toVisual]
    exact hrests.toVisual column hbeyond
  · intro column hbeyond
    rw [h.direction, h.visualDirection, h.toVisual, hrests.toVisual column hbeyond]
    exact hrests.visualDirection column hbeyond
  · intro column hbeyond
    rw [h.glyph?, h.toVisual, hrests.toVisual column hbeyond]
    exact hrests.glyph?_eq_none hbijection hbeyond

namespace Viewport

/-- After any history a recompute aligns every visible row that is present: the text is the first
`content.size` columns, or as many of them as fit. -/
theorem isAligned_recompute {view : Viewport} (hview : view.IsReachable) (source : RowSource)
    (hcompletes : view.frame.Completes source) (row : Nat) {content : Row}
    (hshows : view.frame.shows row = true) (hrow : source.rowAt row = some content) :
    ∃ map, (view.recompute source).rowMap? row = some map ∧ map.width = view.frame.width ∧
      map.IsAligned (min content.size view.frame.width) := by
  obtain ⟨head, htakes, hsame⟩ := Frame.exists_takes source hshows
  obtain ⟨layout, hlayout⟩ := Frame.exists_layout source hshows
  have hbijection : layout.IsBijection view.frame.width :=
    hcompletes layout (List.mem_of_getElem? hlayout)
  obtain ⟨map, hmap, hwidth, hshown⟩ :=
    (hview.isSound.isCurrent_recompute source).exists_shows hshows hlayout hbijection
  have hwidth : map.width = view.frame.width := hwidth
  have hrests := Frame.restsBeyond_of_layout htakes.head_le hrow (hsame.symm.trans hlayout)
    hbijection
  refine ⟨map, hmap, hwidth, ?_⟩
  rw [← hwidth] at hbijection hrests ⊢
  exact hshown.isAligned hbijection hrests (Nat.min_le_right _ _)

/-- A paragraph from right to left with a filled row, a row without cells, and a row that begins
inside a wide character and is not filled. -/
theorem isAligned_recompute_ordered :
    let flags : DirectionFlags := { implicit := true, auto := true }
    let filled : Row :=
      { cells := #[.leader 'א' [] 1, .leader 'b' [] 1, .leader 'ב' [] 1, .leader 'c' [] 1,
          .leader 'd' [] 1, .leader 'ג' [] 1], softWrapped := true, flags }
    let empty : Row := { cells := #[], softWrapped := true, flags }
    let lower : Row := { cells := #[.fragment 2, .leader '世' [] 2, .fragment 2], flags }
    let source := ((Scrollback.empty 4).extend [filled, empty, lower]).source
    let view := (new {} .unicode).replay [(source, .set (.width 5)), (source, .set (.rows 0 3))]
    view.IsReachable ∧ view.frame.Completes source ∧
      (view.frame.shows 0 = true ∧ source.rowAt 0 = some filled ∧
        ∃ map, (view.recompute source).rowMap? 0 = some map ∧ map.IsAligned 5) ∧
      (view.frame.shows 1 = true ∧ source.rowAt 1 = some empty ∧
        ∃ map, (view.recompute source).rowMap? 1 = some map ∧ map.IsAligned 0) ∧
      view.frame.shows 2 = true ∧ source.rowAt 2 = some lower ∧
        ∃ map, (view.recompute source).rowMap? 2 = some map ∧ map.IsAligned 3 := by
  intro flags filled empty lower source view
  have hview : view.IsReachable := ⟨{}, .unicode, _, rfl⟩
  have hcompletes : view.frame.Completes source :=
    Frame.completes_of_wellFormed Classifier.wellFormed_unicode source
  have hfilled : source.rowAt 0 = some filled := by decide
  have hempty : source.rowAt 1 = some empty := by decide
  have hlower : source.rowAt 2 = some lower := by decide
  refine ⟨hview, hcompletes, ⟨by decide, hfilled, ?_⟩, ⟨by decide, hempty, ?_⟩, by decide,
    hlower, ?_⟩
  · obtain ⟨map, hmap, -, haligned⟩ :=
      isAligned_recompute hview source hcompletes 0 (by decide) hfilled
    exact ⟨map, hmap, haligned⟩
  · obtain ⟨map, hmap, -, haligned⟩ :=
      isAligned_recompute hview source hcompletes 1 (by decide) hempty
    exact ⟨map, hmap, haligned⟩
  · obtain ⟨map, hmap, -, haligned⟩ :=
      isAligned_recompute hview source hcompletes 2 (by decide) hlower
    exact ⟨map, hmap, haligned⟩

end Viewport

end BidiViewport
