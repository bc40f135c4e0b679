import BidiViewport.Classifier.Unicode
import BidiViewport.Proofs.Viewport.History

/-!
# Columns of recomputed rows

A cursor moves between what is stored and what is drawn.  After a recompute it can do so
on every visible row and for every integer column: the two directions of a row map undo
each other, inside the row and past its edges, and a cell keeps its direction on the way
(`RowMap.IsMutual`, `Viewport.isMutual_recompute`).

This rests on the classifier alone, and only on the one in use: the slots of a map are
written again for every column of its row, so neither the rows that were laid out before
nor the classifiers that ordered them matter.
-/

namespace BidiViewport

/-- The two directions of a map are inverse on all integers, columns of the row are drawn
in the row, and a cell has the direction of the column that it is drawn at. -/
structure RowMap.IsMutual (map : RowMap) : Prop where
  toLogical_toVisual : ∀ column : Int, map.toLogical (map.toVisual column) = column
  toVisual_toLogical : ∀ visual : Int, map.toVisual (map.toLogical visual) = visual
  toVisual_inside : ∀ column : Int, 0 ≤ column ∧ column < map.width →
    0 ≤ map.toVisual column ∧ map.toVisual column < map.width
  toLogical_inside : ∀ visual : Int, 0 ≤ visual ∧ visual < map.width →
    0 ≤ map.toLogical visual ∧ map.toLogical visual < map.width
  logicalDirection : ∀ column : Int,
    map.logicalDirection column = map.visualDirection (map.toVisual column)

/-- The laws are those of the layout that the map shows. -/
theorem RowMap.Shows.isMutual {map : RowMap} {layout : RowLayout} (h : map.Shows layout)
    (hbijection : layout.IsBijection map.width) : map.IsMutual := by
  refine ⟨fun column => ?_, fun visual => ?_, fun column hin => ?_, fun visual hin => ?_,
    fun column => ?_⟩
  · rw [h.toVisual, h.toLogical]
    exact RowLayout.toLogical_toVisual hbijection column
  · rw [h.toLogical, h.toVisual]
    exact RowLayout.toVisual_toLogical hbijection visual
  · rw [h.toVisual]
    exact RowLayout.toVisual_inside hbijection hin
  · rw [h.toLogical]
    exact RowLayout.toLogical_inside hbijection hin
  · rw [h.logicalDirection, h.visualDirection, h.toVisual]

namespace Viewport

/-- After any history a recompute gives every visible row a map whose directions are
inverse, and no order fails the check of its map, if the classifier in use keeps its
promise. -/
theorem isMutual_recompute {view : Viewport} (hview : view.IsReachable)
    (hclassifier : view.frame.classifier.WellFormed) (source : RowSource) :
    view.frame.Completes source ∧
      ∀ row, view.frame.shows row = true → ∃ map, (view.recompute source).rowMap? row = some map ∧
        map.width = view.frame.width ∧ map.IsMutual := by
  have hcompletes : view.frame.Completes source := Frame.completes_of_wellFormed hclassifier source
  refine ⟨hcompletes, fun row hrow => ?_⟩
  obtain ⟨map, layout, hmap, hlayout, hwidth, hshows⟩ :=
    (hview.isSound.isCurrent_recompute source).rowMap? row hrow
  have hbijection : layout.IsBijection view.frame.width :=
    hcompletes layout (List.mem_of_getElem? hlayout)
  refine ⟨map, hmap, hwidth, (hshows hbijection).isMutual ?_⟩
  rw [hwidth]
  exact hbijection

/-- A viewport that was narrower and showed other rows before, over mixed text. -/
theorem isMutual_recompute_mixed :
    let flags : DirectionFlags := { implicit := true, auto := true }
    let old := ((Scrollback.empty 4).appendText ['א', '1', 'ب'] 2 flags).source
    let source := ((Scrollback.empty 2).appendText ['a', 'א', '世', ' ', 'ב', 'c'] 3 flags).source
    let view := (new {} .unicode).replay [(old, .set (.width 2)), (old, .set (.rows 0 2)),
      (old, .recompute), (source, .set (.width 3)), (source, .set (.limit 7))]
    view.IsReachable ∧ view.frame.classifier.WellFormed ∧ view.frame.shows 1 = true ∧
      ∃ map, (view.recompute source).rowMap? 1 = some map ∧ map.width = 3 ∧ map.IsMutual := by
  intro flags old source view
  have hview : view.IsReachable := ⟨{}, .unicode, _, rfl⟩
  refine ⟨hview, Classifier.wellFormed_unicode, rfl, ?_⟩
  exact (isMutual_recompute hview Classifier.wellFormed_unicode source).2 1 rfl

end Viewport

end BidiViewport
