import BidiViewport.Classifier.Unicode
import BidiViewport.Proofs.Layout.Glyphs
import BidiViewport.Proofs.Viewport.History

/-!
# Shaped rows

Shaping decides what is drawn in a column, and nothing else.  A viewport that shapes and one that
does not find the same paragraphs and draw every column of every row in the same place and in
the same direction, and the one that does not shape has no glyph in any column
(`Viewport.placesAs_shaped`).

Nothing is asked of the classifier where both start with the same maps, as when one viewport is laid
out twice.  Maps with different pasts agree when the orders of the pass are bijections; an order that
is not leaves slots as they were, shaped or not.
-/

namespace BidiViewport

namespace Viewport

/-- A viewport and one that does not shape, with the same frame otherwise.  Either may have any
history, with glyphs in its maps from rows of other widths. -/
theorem placesAs_shaped {shaped plain : Viewport} (hshaped : shaped.IsReachable)
    (hplain : plain.IsReachable) (hframe : plain.frame = { shaped.frame with shaping := false })
    (source : RowSource) :
    (shaped.recompute source).stats = (plain.recompute source).stats ∧
      ∀ row, shaped.frame.shows row = true → ∃ map map',
        (shaped.recompute source).rowMap? row = some map ∧
        (plain.recompute source).rowMap? row = some map' ∧
        map.direction = map'.direction ∧ map.hasForeign = map'.hasForeign ∧
        (∀ visual, map'.glyph? visual = none) ∧
        (plain.maps = shaped.maps ∨ shaped.frame.Completes source → map.PlacesAs map') := by
  have hstep : shaped.frame.InStep plain.frame source id := by
    rw [hframe]
    exact shaped.frame.inStep_shaping source false
  refine ⟨hstep.stats_pass, ?_⟩
  intro row hshows
  have hshows' : plain.frame.shows row = true := hstep.sameWindow.shows row ▸ hshows
  obtain ⟨head, -, hsame, hsame'⟩ := hstep.exists_takes hshows
  obtain ⟨layout, hlayout⟩ := Frame.exists_layout source hshows
  obtain ⟨layout', hlayout'⟩ := Frame.exists_layout source hshows'
  have hown := hsame.symm.trans hlayout
  have hown' := hsame'.symm.trans hlayout'
  have hplaces : layout.SamePlaces layout' shaped.frame.width := hstep.samePlaces hown hown'
  obtain ⟨map, hmap, hfits⟩ := hshaped.isSound.exists_map hshows
  obtain ⟨map', hmap', hfits'⟩ := hplain.isSound.exists_map hshows'
  refine ⟨map.apply layout, map'.apply layout', rowMap?_recompute_of_layout hshows hmap hlayout,
    rowMap?_recompute_of_layout hshows' hmap' hlayout', ?_, ?_, ?_, ?_⟩
  · rw [RowMap.direction_apply, RowMap.direction_apply, hplaces.direction]
  · rw [RowMap.hasForeign_apply, RowMap.hasForeign_apply, hplaces.hasForeign]
  · have hmem := List.mem_of_getElem? hown'
    have hshaping : plain.frame.shaping = false := by rw [hframe]
    exact RowMap.glyph?_eq_none hfits' (Frame.isInside_of_mem_layouts hmem)
      (Frame.glyphs_eq_nil hshaping hmem)
  · rintro (hmaps | hcompletes)
    · rw [hmaps, ← hstep.sameWindow.start] at hmap'
      obtain rfl := Option.some.inj (hmap.symm.trans hmap')
      exact hplaces.placesAs_apply hfits
    · have hbijection := hcompletes layout (List.mem_of_getElem? hlayout)
      have hbijection' := hplaces.isBijection hbijection
      rw [hstep.sameWindow.width] at hbijection'
      refine hplaces.placesAs (hfits.shows_apply hbijection) (hfits'.shows_apply hbijection') ?_ ?_
      · exact (hfits.apply layout).width_eq
      · exact (hfits'.apply layout').width_eq.trans hstep.sameWindow.width.symm

/-- One viewport, laid out with and without shaping after it was wider and had left glyphs in its
maps: an Arabic row, and a mixed paragraph with an Arabic word in its second row. -/
theorem placesAs_shaped_rewidened :
    let flags : DirectionFlags := { implicit := true, auto := true }
    let arabic : Row := { cells := #[.leader 'ب' [] 1, .leader 'ب' [] 1, .leader 'ب' [] 1], flags }
    let upper : Row := { cells := #[.leader 'a' [] 1, .leader '世' [] 2, .fragment 2],
                         softWrapped := true, flags }
    let lower : Row := { cells := #[.leader 'ب' [] 1, .leader 'ب' [] 1], flags }
    let source := ((Scrollback.empty 4).extend [arabic, upper, lower]).source
    let view := (new {} .unicode).replay [(source, .set (.width 8)), (source, .set (.rows 0 3)),
      (source, .recompute), (source, .set (.width 4))]
    let shaped := view.setShaping true
    let plain := view.setShaping false
    shaped.IsReachable ∧ plain.IsReachable ∧
      (shaped.recompute source).stats = (plain.recompute source).stats ∧
      ((shaped.recompute source).rowMap? 0).bind (·.glyph? 2) = some '\uFE92' ∧
      ∃ map map', (shaped.recompute source).rowMap? 0 = some map ∧
        (plain.recompute source).rowMap? 0 = some map' ∧ map.PlacesAs map' ∧
        map'.glyph? 2 = none := by
  intro flags arabic upper lower source view shaped plain
  have hview : view.IsReachable := ⟨{}, .unicode, _, rfl⟩
  have hshaped : shaped.IsReachable := hview.step source (.set (.shaping true))
  have hplain : plain.IsReachable := hview.step source (.set (.shaping false))
  obtain ⟨hstats, hrows⟩ := placesAs_shaped hshaped hplain rfl source
  obtain ⟨map, map', hmap, hmap', -, -, hglyphs, hplaces⟩ := hrows 0 (by decide)
  refine ⟨hshaped, hplain, hstats, by decide +kernel, map, map', hmap, hmap', hplaces (.inl rfl),
    hglyphs 2⟩

end Viewport

end BidiViewport
