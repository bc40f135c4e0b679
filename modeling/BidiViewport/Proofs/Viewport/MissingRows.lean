import BidiViewport.Classifier.Unicode
import BidiViewport.Proofs.Layout.Isolation
import BidiViewport.Proofs.Layout.Placement
import BidiViewport.Proofs.Viewport.History

/-!
# Missing rows

A viewport may show rows that were evicted or not yet written.  A missing row is always
straight and never marked as mixed.  It runs from left to right, unless soft-wrapped rows lead
to it and their paragraph is straight and runs from right to left: such a paragraph takes the
missing row with it (`Viewport.missing_recompute`), while one that is ordered stops above it.
-/

namespace BidiViewport

namespace Chain

/-- Soft-wrapped rows that lead to a missing row are the whole rest of their chain. -/
theorem Leads.exists_isTail {source : RowSource} {head row : Nat} (h : Leads source head row)
    (hmissing : source.rowAt row = none) (hlt : head < row) :
    ∃ rows, IsTail source head rows ∧ head + rows.length = row := by
  induction hdistance : row - head generalizing head with
  | zero => omega
  | succ distance ih =>
    have hwrapped := h.isWrapped head (Nat.le_refl head) hlt
    obtain ⟨content, hcontent⟩ :=
      Option.isSome_iff_exists.1 (source.isSome_of_isWrapped hwrapped)
    rw [RowSource.isWrapped_of_rowAt hcontent] at hwrapped
    rcases Nat.eq_or_lt_of_le (Nat.succ_le_of_lt hlt) with rfl | hbelow
    · exact ⟨[content], .last hcontent (.inr hmissing), rfl⟩
    · have hrest : Leads source (head + 1) row :=
        ⟨Nat.le_of_lt hbelow, fun above hhead habove => h.isWrapped above (by omega) habove⟩
      obtain ⟨rows, hrows, hlength⟩ := ih hrest hbelow (by omega)
      refine ⟨content :: rows, .more hcontent hwrapped hrows, ?_⟩
      rw [List.length_cons]
      omega

end Chain

namespace Frame

variable {frame : Frame} {source : RowSource} {head row : Nat} {rows : List Row}

/-- An ordered paragraph stops above a missing row. -/
theorem exists_straight_of_takes (htakes : frame.Takes source head row)
    (hrows : Chain.IsTail source head rows) (hlength : head + rows.length = row) :
    ∃ direction cause, frame.judge rows = .straight direction cause := by
  cases hjudge : frame.judge rows with
  | straight direction cause => exact ⟨direction, cause, rfl⟩
  | analysed lines analysis =>
    have hverdict := (frame.verdict_prepare hrows).trans hjudge
    obtain ⟨reads, htail⟩ := hrows.tail_eq frame.limit
    have hend := htakes.lt_end
    rw [length_layouts_analysed hverdict, htail, List.length_take] at hend
    omega

/-- The chain above `row` leads to it, and is laid out straight from right to left. -/
def FollowsStraightRtl (frame : Frame) (source : RowSource) (row : Nat) : Prop :=
  ∃ head rows cause, frame.IsHeadOf source head row ∧ Chain.IsTail source head rows ∧
    frame.judge rows = .straight .rtl cause

theorem layout_of_followsStraightRtl (h : frame.FollowsStraightRtl source row)
    (hshows : frame.shows row = true) {layout : RowLayout}
    (hlayout : (frame.pass source).layouts[row - frame.start]? = some layout) :
    layout = { direction := .rtl } := by
  obtain ⟨head, rows, cause, hhead, hrows, hjudge⟩ := h
  have hverdict := (frame.verdict_prepare hrows).trans hjudge
  exact Option.some.inj (hlayout.symm.trans (hhead.layout_of_straight hshows hverdict))

theorem layout_of_missing (hmissing : source.rowAt row = none) (hshows : frame.shows row = true)
    (h : ¬frame.FollowsStraightRtl source row) {layout : RowLayout}
    (hlayout : (frame.pass source).layouts[row - frame.start]? = some layout) :
    layout = { direction := .ltr } := by
  obtain ⟨head, htakes, hsame⟩ := exists_takes source hshows
  rw [hsame] at hlayout
  rcases Nat.eq_or_lt_of_le htakes.head_le with rfl | hlt
  · exact getElem?_layouts_straight (frame.verdict_of_missing hmissing) hlayout
  · have hhead := htakes.isHeadOf (htakes.leads.isSome (Nat.le_refl head) hlt)
    obtain ⟨rows, hrows, hlength⟩ := htakes.leads.exists_isTail hmissing hlt
    obtain ⟨direction, cause, hjudge⟩ := exists_straight_of_takes htakes hrows hlength
    have hverdict := (frame.verdict_prepare hrows).trans hjudge
    cases direction with
    | ltr => exact getElem?_layouts_straight hverdict hlayout
    | rtl => exact absurd ⟨head, rows, cause, hhead, hrows, hjudge⟩ h

end Frame

namespace Viewport

variable {view : Viewport}

/-- After a recompute a missing row has a straight map that is not marked as mixed.  It has
the left-to-right layout except below a chain that leads to it and is itself laid out straight
from right to left. -/
theorem missing_recompute (hview : view.IsReachable) (source : RowSource) (row : Nat)
    (hshows : view.frame.shows row = true) (hmissing : source.rowAt row = none) :
    ∃ map, (view.recompute source).rowMap? row = some map ∧ map.isIdentity = true ∧
      map.hasForeign = false ∧
      ((map.direction = .ltr ∧
          ∀ column : Int, map.toVisual column = column ∧ map.toLogical column = column) ↔
        ¬view.frame.FollowsStraightRtl source row) ∧
      (view.frame.FollowsStraightRtl source row → map.direction = .rtl ∧
        ∀ column : Int, map.toVisual column = view.frame.width - 1 - column ∧
          map.toLogical column = view.frame.width - 1 - column) := by
  obtain ⟨map, layout, hfits, hlayout, hmap⟩ := hview.isSound.rowMap?_recompute source hshows
  by_cases hfollows : view.frame.FollowsStraightRtl source row
  · obtain rfl := Frame.layout_of_followsStraightRtl hfollows hshows hlayout
    have hidentity : (map.apply { direction := .rtl }).isIdentity = true := rfl
    have hcolumn (column : Int) :
        RowLayout.straightColumn map.width .rtl column = view.frame.width - 1 - column := by
      rw [hfits.width_eq]
      rfl
    refine ⟨_, hmap, hidentity, rfl, ?_, fun _ => ⟨rfl, fun column => ⟨?_, ?_⟩⟩⟩
    · constructor
      · intro h
        cases h.1
      · intro h
        exact absurd hfollows h
    · rw [RowMap.toVisual_of_isIdentity hidentity]
      exact hcolumn column
    · rw [RowMap.toLogical_of_isIdentity hidentity]
      exact hcolumn column
  · obtain rfl := Frame.layout_of_missing hmissing hshows hfollows hlayout
    have hidentity : (map.apply { direction := .ltr }).isIdentity = true := rfl
    refine ⟨_, hmap, hidentity, rfl, ?_, fun h => absurd h hfollows⟩
    refine ⟨fun _ => hfollows, fun _ => ⟨rfl, fun column => ⟨?_, ?_⟩⟩⟩
    · exact RowMap.toVisual_of_isIdentity hidentity column
    · exact RowMap.toLogical_of_isIdentity hidentity column

/-- The newest row declares a direction and is still soft-wrapped: the row that is not yet
written below it runs in that direction too. -/
theorem missing_below_explicit_rtl :
    let newest : Row := { cells := #[.leader 'a' [] 1], softWrapped := true,
                          flags := { rtl := true } }
    let source := ((Scrollback.empty 4).extend [newest]).source
    let view := (new { reserveRows := 2, reserveColumns := 3 } .unicode).replay
      [(source, .set (.width 3)), (source, .set (.rows 0 2))]
    view.frame.shows 1 = true ∧ source.rowAt 1 = none ∧
      ∃ map, (view.recompute source).rowMap? 1 = some map ∧ map.direction = .rtl ∧
        map.toVisual 0 = 2 := by
  intro newest source view
  have hanswers : ((view.recompute source).rowMap? 1).map
      (fun map => (map.direction, map.toVisual 0)) = some (.rtl, 2) := by decide +kernel
  obtain ⟨map, hmap, hpair⟩ := Option.map_eq_some_iff.1 hanswers
  obtain ⟨hdirection, hcolumn⟩ := Prod.mk.inj hpair
  exact ⟨rfl, rfl, map, hmap, hdirection, hcolumn⟩

/-- The same below a chain of more rows than the limit. -/
theorem missing_recompute_overlong :
    let flags : DirectionFlags := { implicit := true, rtl := true }
    let wrapped : Row := { cells := #[.leader 'א' [] 1], softWrapped := true, flags }
    let source := ((Scrollback.empty 4).extend [wrapped, wrapped]).source
    let view := (new {} .unicode).replay [(source, .set (.width 3)), (source, .set (.rows 0 3)),
      (source, .set (.limit 1))]
    view.IsReachable ∧ view.frame.shows 2 = true ∧ source.rowAt 2 = none ∧
      view.frame.FollowsStraightRtl source 2 ∧
      ∃ map, (view.recompute source).rowMap? 2 = some map ∧ map.isIdentity = true ∧
        map.hasForeign = false ∧ map.direction = .rtl := by
  intro flags wrapped source view
  have hview : view.IsReachable := ⟨{}, .unicode, _, rfl⟩
  have hleads : Chain.Leads source 0 2 := by
    refine ((Chain.Leads.refl source 0).succ ?_).succ ?_ <;> decide
  have htail : Chain.IsTail source 0 [wrapped, wrapped] :=
    .more rfl rfl (.last rfl (.inr rfl))
  have hjudge : view.frame.judge [wrapped, wrapped] = .straight .rtl .overlong := by
    have hlimit : view.frame.limit < [wrapped, wrapped].length := by decide
    exact if_pos hlimit
  have hfollows : view.frame.FollowsStraightRtl source 2 :=
    ⟨0, [wrapped, wrapped], .overlong, ⟨by decide, .inl (by decide), hleads⟩, htail, hjudge⟩
  obtain ⟨map, hmap, hidentity, hforeign, -, hrtl⟩ :=
    missing_recompute hview source 2 (by decide) rfl
  exact ⟨hview, by decide, rfl, hfollows, map, hmap, hidentity, hforeign, (hrtl hfollows).1⟩

end Viewport

end BidiViewport
