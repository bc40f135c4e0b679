import BidiViewport.Classifier.Unicode
import BidiViewport.Proofs.Layout.Isolation
import BidiViewport.Proofs.Viewport.History

/-!
# Scrolling

A row does not change when the viewport scrolls, nor when rows of other paragraphs come
and go.  `Viewport.agree_of_isWhole` says it of two viewports over two scrollbacks that
hold the same chain of rows somewhere: a row of the chain that both show has maps that
answer alike, wherever the chain lies in either of them, and whatever was laid out before.
-/

namespace BidiViewport

namespace Viewport

/-- A row of a uniform chain within the limit looks the same in every viewport of the same
width, limit, shaping and classifier.  The classifier need not keep its promise elsewhere:
all that is asked is that no order of the pass fails the check of its map. -/
theorem agree_of_isWhole {view₁ view₂ : Viewport} (hview₁ : view₁.IsReachable)
    (hview₂ : view₂.IsReachable) (hclassifier : view₁.frame.classifier = view₂.frame.classifier)
    (hwidth : view₁.frame.width = view₂.frame.width)
    (hlimit : view₁.frame.limit = view₂.frame.limit)
    (hshaping : view₁.frame.shaping = view₂.frame.shaping)
    {scrollback₁ scrollback₂ : Scrollback} {first₁ first₂ : Nat} {rows : List Row}
    (hchain₁ : Chain.IsWhole scrollback₁.source first₁ rows)
    (hchain₂ : Chain.IsWhole scrollback₂.source first₂ rows)
    (hlength : rows.length ≤ view₁.frame.limit) (huniform : Chain.IsUniform rows)
    {i : Nat} (hi : i < rows.length) (hrow₁ : view₁.frame.shows (first₁ + i) = true)
    (hrow₂ : view₂.frame.shows (first₂ + i) = true)
    (hcompletes : view₁.frame.Completes scrollback₁.source) :
    ∃ map₁ map₂, (view₁.recompute scrollback₁.source).rowMap? (first₁ + i) = some map₁ ∧
      (view₂.recompute scrollback₂.source).rowMap? (first₂ + i) = some map₂ ∧
      map₁.Agree map₂ := by
  have hcurrent₁ := hview₁.isSound.isCurrent_recompute scrollback₁.source
  have hcurrent₂ := hview₂.isSound.isCurrent_recompute scrollback₂.source
  refine hcurrent₁.exists_agree hcurrent₂ hwidth hcompletes hrow₁ hrow₂ ?_
  -- Both layouts are the one that the chain has by itself.
  have hown₁ := Frame.getElem?_layouts_of_isWhole scrollback₁.startsAtFirst hchain₁ hlength
    huniform hi hrow₁
  have hown₂ := Frame.getElem?_layouts_of_isWhole scrollback₂.startsAtFirst hchain₂
    (hlimit ▸ hlength) huniform hi hrow₂
  rw [← Frame.chainLayouts_congr hclassifier hwidth hlimit hshaping] at hown₂
  exact hown₁.trans hown₂.symm

/-- The second row of a mixed paragraph at the top of a viewport that was wider before,
and at the bottom of another, in scrollbacks that hold it at different places. -/
theorem agree_of_isWhole_scrolled :
    let flags : DirectionFlags := { implicit := true, auto := true }
    let other : Row := { cells := #[.leader 'x' [] 1] }
    let upper : Row := { cells := #[.leader 'a' [] 1, .leader 'א' [] 1], softWrapped := true, flags }
    let lower : Row := { cells := #[.leader '1' [] 1, .leader 'ב' [] 1], flags }
    let scrollback₁ := (Scrollback.empty 3).extend [other, upper, lower, other]
    let scrollback₂ := (Scrollback.empty 9).extend [other, other, other, upper, lower]
    let source := scrollback₂.source
    let view₁ := (new {} .unicode).replay [(source, .set (.width 5)), (source, .set (.rows 2 3)),
      (source, .recompute), (source, .set (.width 3))]
    let view₂ := (new {} .unicode).replay [(source, .set (.width 3)), (source, .set (.rows 1 4))]
    Chain.IsWhole scrollback₁.source 1 [upper, lower] ∧
      Chain.IsWhole scrollback₂.source 3 [upper, lower] ∧ Chain.IsUniform [upper, lower] ∧
      ∃ map₁ map₂, (view₁.recompute scrollback₁.source).rowMap? 2 = some map₁ ∧
        (view₂.recompute scrollback₂.source).rowMap? 4 = some map₂ ∧ map₁.Agree map₂ := by
  intro flags other upper lower scrollback₁ scrollback₂ source view₁ view₂
  have hchain₁ : Chain.IsWhole scrollback₁.source 1 [upper, lower] := by
    refine ⟨.more (by decide) (by decide) (.last (by decide) (.inl (by decide))), fun above h => ?_⟩
    obtain rfl : above = 0 := Nat.succ.inj h
    decide
  have hchain₂ : Chain.IsWhole scrollback₂.source 3 [upper, lower] := by
    refine ⟨.more (by decide) (by decide) (.last (by decide) (.inl (by decide))), fun above h => ?_⟩
    obtain rfl : above = 2 := Nat.succ.inj h
    decide
  have hclassifier₁ : view₁.frame.classifier = .unicode := by
    unfold view₁ source scrollback₂ other upper lower
    rfl
  have hclassifier₂ : view₂.frame.classifier = .unicode := by
    unfold view₂ source scrollback₂ other upper lower
    rfl
  have hcompletes : view₁.frame.Completes scrollback₁.source := by
    apply Frame.completes_of_wellFormed
    rw [hclassifier₁]
    exact Classifier.wellFormed_unicode
  have huniform : Chain.IsUniform [upper, lower] := .inl (by decide)
  refine ⟨hchain₁, hchain₂, huniform, ?_⟩
  exact agree_of_isWhole ⟨{}, .unicode, _, rfl⟩ ⟨{}, .unicode, _, rfl⟩
    (hclassifier₁.trans hclassifier₂.symm) (by decide) (by decide) (by decide) hchain₁ hchain₂
    (by decide) huniform (Nat.lt_succ_self 1) (by decide) (by decide) hcompletes

end Viewport

end BidiViewport
