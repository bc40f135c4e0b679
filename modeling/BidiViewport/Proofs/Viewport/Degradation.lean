import BidiViewport.Classifier.Unicode
import BidiViewport.Proofs.Grid.Log
import BidiViewport.Proofs.Layout.Straight
import BidiViewport.Proofs.Viewport.History

/-!
# Viewports without analyses

A classifier that has no analysis for any text is as good as one that cannot reorder: a viewport
finds the same paragraphs and draws every row alike, whatever error each text comes with.  When
the rows of each chain declare the same direction, it even draws the rows as if none of them
had asked for the bidirectional algorithm, with any classifier (`Viewport.agree_degraded`).

Only the second part needs the condition on the rows.  When the first visible row asks for the
algorithm, its chain is drawn in the direction of the row at which the chain begins; when it does
not, the rows above it are never read.
-/

namespace BidiViewport

namespace Viewport

theorem exists_agree_of_laysStraight {a b : Viewport} {sourceA sourceB : RowSource} {row : Nat}
    (ha : a.IsReachable) (hb : b.IsReachable) (hsame : a.frame.SameWindow b.frame)
    (hstraight : a.frame.LaysStraight sourceA) (hshows : a.frame.shows row = true)
    (hlayouts : (a.frame.pass sourceA).layouts[row - a.frame.start]? =
      (b.frame.pass sourceB).layouts[row - b.frame.start]?) :
    ∃ mapA mapB, (a.recompute sourceA).rowMap? row = some mapA ∧
      (b.recompute sourceB).rowMap? row = some mapB ∧ mapA.Agree mapB := by
  have hshowsB : b.frame.shows row = true := hsame.shows row ▸ hshows
  exact (ha.isSound.isCurrent_recompute sourceA).exists_agree
    (hb.isSound.isCurrent_recompute sourceB) hsame.width hstraight.completes hshows hshowsB hlayouts

/-- A viewport in which nothing is analysed draws a row as if no row had asked for it. -/
theorem exists_agree_withoutImplicit {view explicit : Viewport} {source : RowSource} {row : Nat}
    (hview : view.IsReachable) (hexplicit : explicit.IsReachable)
    (hsame : view.frame.SameWindow explicit.frame) (hstraight : view.frame.LaysStraight source)
    (hkeeps : source.KeepsDirection) (hshows : view.frame.shows row = true) :
    ∃ map plain, (view.recompute source).rowMap? row = some map ∧
      (explicit.recompute source.withoutImplicit).rowMap? row = some plain ∧ map.Agree plain := by
  refine exists_agree_of_laysStraight hview hexplicit hsame hstraight hshows ?_
  have hplain := (explicit.frame.laysStraight_withoutImplicit source).layout_eq
    hkeeps.withoutImplicit (hsame.shows row ▸ hshows)
  rw [hstraight.layout_eq hkeeps hshows, hplain, source.resting_withoutImplicit, hsame.start]

/-- A viewport whose classifier fails for every text has the same paragraphs and the same maps as
one whose classifier cannot reorder.  When every chain keeps to one direction, both have the
maps of a viewport, with any classifier, over the same rows without the wish for the
bidirectional algorithm. -/
theorem agree_degraded {failing unavailable : Viewport} (hfailing : failing.IsReachable)
    (hunavailable : unavailable.IsReachable)
    (hfails : ∀ text base, ∃ error, failing.frame.classifier.analyze text base = .error error)
    (hcannot : unavailable.frame.classifier.isAvailable = false)
    (hsame : failing.frame.SameWindow unavailable.frame)
    (hlimit : failing.frame.limit = unavailable.frame.limit) (source : RowSource) :
    (failing.recompute source).stats.paragraphs = (unavailable.recompute source).stats.paragraphs ∧
    (∀ row, failing.frame.shows row = true → ∃ map map',
      (failing.recompute source).rowMap? row = some map ∧
      (unavailable.recompute source).rowMap? row = some map' ∧ map.Agree map') ∧
    (source.KeepsDirection → ∀ explicit : Viewport, explicit.IsReachable →
      failing.frame.SameWindow explicit.frame → ∀ row, failing.frame.shows row = true →
      ∃ map map' plain, (failing.recompute source).rowMap? row = some map ∧
        (unavailable.recompute source).rowMap? row = some map' ∧
        (explicit.recompute source.withoutImplicit).rowMap? row = some plain ∧
        map.Agree plain ∧ map'.Agree plain) := by
  have hstraight : failing.frame.LaysStraight source :=
    Frame.laysStraight_of_analysesNothing (fun _ => hfails) source
  have hstraight' : unavailable.frame.LaysStraight source := by
    refine Frame.laysStraight_of_analysesNothing (fun havailable => ?_) source
    rw [hcannot] at havailable
    cases havailable
  obtain ⟨hlayouts, hparagraphs⟩ := hstraight.layouts_pass hstraight' hsame hlimit
  refine ⟨hparagraphs, fun row hshows => ?_, fun hkeeps explicit hexplicit hwindow row hshows => ?_⟩
  · refine exists_agree_of_laysStraight hfailing hunavailable hsame hstraight hshows ?_
    rw [hlayouts, hsame.start]
  · have hwindow' : unavailable.frame.SameWindow explicit.frame :=
      ⟨hsame.start.symm.trans hwindow.start, hsame.size.symm.trans hwindow.size,
        hsame.width.symm.trans hwindow.width⟩
    obtain ⟨map, plain, hmap, hplain, hagree⟩ :=
      exists_agree_withoutImplicit hfailing hexplicit hwindow hstraight hkeeps hshows
    obtain ⟨map', plain', hmap', hplain', hagree'⟩ := exists_agree_withoutImplicit hunavailable
      hexplicit hwindow' hstraight' hkeeps (hsame.shows row ▸ hshows)
    obtain rfl := Option.some.inj (hplain.symm.trans hplain')
    exact ⟨map, map', plain, hmap, hmap', hplain, hagree, hagree'⟩

/-- A chain of which every second row asks for the bidirectional algorithm, and the missing row to
which it leads. -/
theorem agree_degraded_missing :
    let asking : Row := { cells := #[.leader 'א' [] 1], softWrapped := true,
                          flags := { implicit := true, rtl := true } }
    let plain : Row := { cells := #[.leader 'a' [] 1], softWrapped := true, flags := { rtl := true } }
    let source := ((Scrollback.empty 3).extend [asking, plain, asking]).source
    let classifier : Classifier :=
      { name := "failing", isAvailable := true
        analyze := fun text _ => .error (.multipleParagraphs text.length) }
    let failing := (new {} classifier).replay [(source, .set (.width 3)),
      (source, .set (.rows 2 2))]
    let unavailable := (new {} .explicit).replay [(source, .set (.width 9)),
      (source, .set (.rows 0 3)), (source, .recompute), (source, .set (.width 3)),
      (source, .set (.rows 2 2))]
    let explicit := (new {} .unicode).replay [(source, .set (.width 3)), (source, .set (.rows 2 2))]
    source.KeepsDirection ∧ source.rowAt 3 = none ∧
      (failing.recompute source).stats.paragraphs = (unavailable.recompute source).stats.paragraphs ∧
      ∃ map map' map'', (failing.recompute source).rowMap? 3 = some map ∧
        (unavailable.recompute source).rowMap? 3 = some map' ∧
        (explicit.recompute source.withoutImplicit).rowMap? 3 = some map'' ∧
        map.Agree map'' ∧ map'.Agree map'' := by
  intro asking plain source classifier failing unavailable explicit
  have hkeeps : source.KeepsDirection := by
    have hrtl : ∀ content ∈ [asking, plain, asking], content.flags.rtl = true := by decide
    intro row upper lower hupper _ hlower
    rw [Scrollback.rowAt_extend_empty (by decide)] at hupper hlower
    rw [hrtl _ (List.mem_of_getElem? hupper), hrtl _ (List.mem_of_getElem? hlower)]
  have hsame : failing.frame.SameWindow unavailable.frame := ⟨rfl, rfl, rfl⟩
  have hwindow : failing.frame.SameWindow explicit.frame := ⟨rfl, rfl, rfl⟩
  obtain ⟨hparagraphs, -, hexplicit⟩ := agree_degraded ⟨{}, classifier, _, rfl⟩
    ⟨{}, .explicit, _, rfl⟩ (fun text _ => ⟨.multipleParagraphs text.length, rfl⟩) rfl hsame
    rfl source
  exact ⟨hkeeps, by decide, hparagraphs,
    hexplicit hkeeps explicit ⟨{}, .unicode, _, rfl⟩ hwindow 3 (by decide)⟩

end Viewport

end BidiViewport
