import BidiViewport.Classifier.Unicode
import BidiViewport.Proofs.Layout.Footprint
import BidiViewport.Proofs.Viewport.History

/-!
# Locality

The work of a recompute does not grow with the scrollback, and what it shows cannot be changed
from far away.  It reads rows that are at most the limit above the viewport or below it, and
the outcome is the same for every scrollback that holds these rows
(`Viewport.recompute_local`): the maps with all their storage, and the account of the work.
-/

namespace BidiViewport

/-- Sources that kept the same rows, or all rows from `lowest` on, have given up the same ones
among those that are looked at. -/
theorem RowSource.sameStart_of_le {a b : RowSource} {limit row : Nat}
    (h : a.firstRow = b.firstRow ∨ a.firstRow ≤ row - limit ∧ b.firstRow ≤ row - limit) :
    a.SameStart b limit row := by
  intro above habove
  rcases h with heq | ⟨ha, hb⟩
  · rw [heq]
  · constructor <;> intro hgone <;> omega

namespace Viewport

/-- Every row that a recompute reads is at most the limit above the viewport or below it.  It
depends on no other row; so two sources that agree there, and begin at the same row or both
further up, leave the same viewport behind. -/
theorem recompute_local {view : Viewport} (hview : view.IsReachable) (a : RowSource) :
    let lowest := view.frame.start - view.frame.limit
    let highest := view.frame.start + view.frame.size + view.frame.limit - 1
    (∀ row ∈ (view.frame.pass a).reads, lowest ≤ row ∧ row ≤ highest) ∧
      (∀ b : RowSource, a.AgreeOn b (view.frame.pass a).reads →
        a.SameStart b view.frame.limit view.frame.start →
        view.recompute a = view.recompute b) ∧
      ∀ b : RowSource, (∀ row, lowest ≤ row → row ≤ highest → a.rowAt row = b.rowAt row) →
        (a.firstRow = b.firstRow ∨ a.firstRow ≤ lowest ∧ b.firstRow ≤ lowest) →
        view.recompute a = view.recompute b := by
  intro lowest highest
  have hlimit := hview.isSound.limit_pos
  have hbounds : ∀ row ∈ (view.frame.pass a).reads, lowest ≤ row ∧ row ≤ highest := by
    intro row hrow
    have hstop : view.frame.stop = view.frame.start + view.frame.size := rfl
    have hrow := Frame.bounds_of_mem_pass hlimit hrow
    omega
  have hfootprint : ∀ b : RowSource, a.AgreeOn b (view.frame.pass a).reads →
      a.SameStart b view.frame.limit view.frame.start → view.recompute a = view.recompute b := by
    intro b hagree hstart
    unfold recompute
    rw [Frame.pass_congr hstart hagree]
  refine ⟨hbounds, hfootprint, fun b hagree hfirst => ?_⟩
  refine hfootprint b (fun row hrow => ?_) (RowSource.sameStart_of_le hfirst)
  obtain ⟨hlowest, hhighest⟩ := hbounds row hrow
  exact hagree row hlowest hhighest

/-- A viewport inside a chain that is longer than the limit on both sides, over two scrollbacks
that differ in their oldest and newest rows and in how many they keep. -/
theorem recompute_local_overlong :
    let flags : DirectionFlags := { implicit := true, auto := true }
    let wrapped (char : Char) : Row :=
      { cells := #[.leader char [] 1], softWrapped := true, flags }
    let blank : Row := { cells := #[] }
    let inner := [wrapped 'א', wrapped 'b', wrapped '1', wrapped 'ב', wrapped 'c']
    let a := ((Scrollback.empty 9).extend (wrapped 'a' :: inner ++ [wrapped 'ג'])).source
    let b := ((Scrollback.empty 6).extend (blank :: inner ++ [blank])).source
    let view := (new {} .unicode).replay [(a, .set (.width 3)), (a, .set (.rows 3 1)),
      (a, .set (.limit 2))]
    view.IsReachable ∧ a.firstRow = 0 ∧ b.firstRow = 1 ∧ a.rowAt 6 ≠ b.rowAt 6 ∧
      view.recompute a = view.recompute b := by
  intro flags wrapped blank inner a b view
  have hview : view.IsReachable := ⟨{}, .unicode, _, rfl⟩
  have hstart : view.frame.start = 3 := rfl
  have hsize : view.frame.size = 1 := rfl
  have hlimit : view.frame.limit = 2 := by decide
  have hlocal := (recompute_local hview a).2.2 b
  rw [hstart, hsize, hlimit] at hlocal
  refine ⟨hview, by decide, by decide, by decide, ?_⟩
  refine hlocal (fun row hlowest hhighest => ?_) (.inr (by decide))
  obtain rfl | rfl | rfl | rfl | rfl : row = 1 ∨ row = 2 ∨ row = 3 ∨ row = 4 ∨ row = 5 := by omega
  all_goals decide

end Viewport

end BidiViewport
