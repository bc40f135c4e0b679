import BidiViewport.Proofs.Layout.Analyses
import BidiViewport.Proofs.Layout.InStep
import BidiViewport.Proofs.Layout.Isolation
import BidiViewport.Proofs.Layout.SingleDirection
import BidiViewport.Proofs.Viewport.History

/-!
# The shortcut for a single direction

A viewport does not order the rows of a paragraph that stays on its own level.  Whoever moves a
cursor over such a row, selects in it or draws it cannot tell: a viewport that orders every
row of every analysed paragraph has the same answers for it, and its columns are those of an
explicit row (`Viewport.placesAs_recompute`).
-/

namespace BidiViewport

namespace Frame

variable {frame : Frame} {source : RowSource} {head row : Nat}

/-- The row belongs to a paragraph that declares a direction and does not ask for the
bidirectional algorithm. -/
def IsExplicitIn (frame : Frame) (source : RowSource) (row : Nat) (direction : Direction) : Prop :=
  ∃ head content, frame.IsHeadOf source head row ∧ source.rowAt head = some content ∧
    content.flags.implicit = false ∧ content.flags.declared = direction

theorem IsExplicitIn.layout_eq {direction : Direction}
    (h : frame.IsExplicitIn source row direction) (hshows : frame.shows row = true) :
    (frame.pass source).layouts[row - frame.start]? = some { direction } := by
  obtain ⟨head, content, hhead, hcontent, hexplicit, rfl⟩ := h
  exact hhead.layout_of_straight hshows (frame.verdict_of_explicit hcontent hexplicit)

/-- The same frame with a classifier that never finds a paragraph on one level. -/
def ordering (frame : Frame) : Frame :=
  { frame with classifier := frame.classifier.mapAnalyses .asMixed }

variable {lines : List Line} {analysis : Analysis}

/-- A row of a paragraph on one level has the layout of the same row when it is ordered, up to
what the shortcut leaves out. -/
theorem exists_shortens (hclassifier : frame.classifier.OrdersSingle)
    (hverdict : (frame.prepare source head).verdict = .analysed lines analysis)
    (hlevels : analysis.HasOneLevel) (hhead : frame.IsHeadOf source head row)
    (hshows : frame.shows row = true) (hrow : (source.rowAt row).isSome = true) :
    ∃ fast slow, (frame.pass source).layouts[row - frame.start]? = some fast ∧
      (frame.ordering.pass source).layouts[row - frame.start]? = some slow ∧
      fast.direction = analysis.direction ∧ fast.Shortens slow frame.width := by
  obtain ⟨content, hcontent⟩ := Option.isSome_iff_exists.1 hrow
  obtain ⟨htakes, hfast⟩ := hhead.takes hshows hrow
  have hhead' := (frame.inStep_mapAnalyses source .asMixed).isHeadOf hhead
  have hshows' : frame.ordering.shows row = true := hshows
  obtain ⟨-, hslow⟩ := hhead'.takes hshows' hrow
  obtain ⟨layout, hlayout⟩ := exists_layout source hshows
  obtain ⟨hline, -⟩ := exists_layout_of_takes hverdict htakes.head_le hcontent
    (hfast.symm.trans hlayout)
  obtain ⟨-, -, base, hanalysis⟩ := analysed_of_prepare hverdict
  have hsingle : analysis.isSingle = true := (hclassifier.isSingle_iff hanalysis).2 hlevels
  have horder := hclassifier.reorder_eq hanalysis hlevels (Nat.le_add_right _ _)
    (Line.length_text_take_add hline)
  rw [Nat.add_sub_cancel_left] at horder
  obtain ⟨own, hfastLine, hslowLine⟩ := exists_line_mapAnalyses (f := .asMixed) (fun _ => rfl)
    hverdict hline
  obtain ⟨fast, slow, hfast', hslow', hdirection, hshortens⟩ :=
    Line.exists_shortens hsingle horder own
  rw [hfast'] at hfastLine
  rw [hslow'] at hslowLine
  exact ⟨fast, slow, hfast.trans hfastLine, hslow.trans hslowLine, hdirection, hshortens⟩

end Frame

namespace Viewport

/-- A row of a paragraph on one level is not marked as mixed, and a viewport that orders such rows
has the same answers for every integer column.  Its columns are those of any explicit row of
the same width in the direction of the paragraph. -/
theorem placesAs_recompute {view : Viewport} (hview : view.IsReachable)
    (hclassifier : view.frame.classifier.OrdersSingle) (source : RowSource) {head row : Nat}
    {lines : List Line} {analysis : Analysis}
    (hverdict : (view.frame.prepare source head).verdict = .analysed lines analysis)
    (hlevels : analysis.HasOneLevel) (hhead : view.frame.IsHeadOf source head row)
    (hshows : view.frame.shows row = true) (hrow : (source.rowAt row).isSome = true) :
    let ordering := view.setClassifier (view.frame.classifier.mapAnalyses .asMixed)
    ∃ map slow, (view.recompute source).rowMap? row = some map ∧
      (ordering.recompute source).rowMap? row = some slow ∧
      map.hasForeign = false ∧ slow.isIdentity = false ∧ map.PlacesAs slow ∧
      (∀ visual, map.glyph? visual = slow.glyph? visual) ∧
      ∀ (other : Viewport) (otherSource : RowSource) (otherRow : Nat), other.IsReachable →
        other.frame.width = view.frame.width → other.frame.shows otherRow = true →
        other.frame.IsExplicitIn otherSource otherRow analysis.direction →
        ∃ explicit, (other.recompute otherSource).rowMap? otherRow = some explicit ∧
          map.PlacesAs explicit := by
  intro ordering
  have hsound : ordering.IsSound := hview.isSound.set (.classifier _)
  obtain ⟨fast, slow, hfast, hslow, hdirection, hshortens⟩ :=
    Frame.exists_shortens hclassifier hverdict hlevels hhead hshows hrow
  obtain ⟨map, hmap, hwidth, hshown⟩ :=
    (hview.isSound.isCurrent_recompute source).exists_shows hshows hfast
      hshortens.isPlain_fast.isBijection
  obtain ⟨slowMap, hslowMap, hslowWidth, hslowShown⟩ :=
    (hsound.isCurrent_recompute source).exists_shows hshows hslow
      hshortens.isPlain_slow.isBijection
  have hwidth : map.width = view.frame.width := hwidth
  have hslowWidth : slowMap.width = view.frame.width := hslowWidth
  refine ⟨map, slowMap, hmap, hslowMap, hshown.hasForeign.trans hshortens.hasForeign,
    hslowShown.isIdentity.trans hshortens.isOrdered, ?_, fun visual => ?_, ?_⟩
  · exact hshown.placesAs hslowShown (hwidth.trans hslowWidth.symm) hshortens.direction
      (hwidth ▸ hshortens.isPlain_fast) (hslowWidth ▸ hshortens.isPlain_slow)
  · rw [hshown.glyph?, hslowShown.glyph?, hwidth, hslowWidth]
    exact hshortens.glyph? visual
  · intro other otherSource otherRow hother hsame hotherShows hexplicit
    obtain ⟨explicit, hexplicitMap, hexplicitWidth, hexplicitShown⟩ :=
      (hother.isSound.isCurrent_recompute otherSource).exists_shows hotherShows
        (hexplicit.layout_eq hotherShows) (RowLayout.isBijection_straight _ _ _)
    have hexplicitWidth : explicit.width = view.frame.width := Eq.trans hexplicitWidth hsame
    refine ⟨explicit, hexplicitMap, ?_⟩
    exact hshown.placesAs hexplicitShown (hwidth.trans hexplicitWidth.symm) hdirection
      (hwidth ▸ hshortens.isPlain_fast) (.inl rfl)

/-- An Arabic paragraph whose second row begins inside a wide letter and is not filled, and an
explicit row in another scrollback. -/
theorem placesAs_recompute_joined :
    let flags : DirectionFlags := { implicit := true, auto := true }
    let upper : Row := { cells := #[.leader 'ب' [] 1, .leader 'ب' [] 1], softWrapped := true, flags }
    let lower : Row := { cells := #[.fragment 2, .leader 'ب' [] 2, .fragment 2], flags }
    let source := ((Scrollback.empty 4).extend [upper, lower]).source
    let view := (new {} .unicode).replay [(source, .set (.width 5)), (source, .set (.rows 1 1))]
    let ordering := view.setClassifier (view.frame.classifier.mapAnalyses .asMixed)
    let otherSource := ((Scrollback.empty 1).extend [{ flags := { rtl := true } }]).source
    let other := (new {} .explicit).replay [(source, .set (.width 5)), (source, .set (.rows 0 1))]
    let analysis := Classifier.analysis .rtl ['ب', 'ب', ' ', 'ب']
    view.IsReachable ∧ view.frame.classifier.OrdersSingle ∧ analysis.HasOneLevel ∧
      view.frame.IsHeadOf source 0 1 ∧ other.frame.IsExplicitIn otherSource 0 .rtl ∧
      ∃ map slow explicit, (view.recompute source).rowMap? 1 = some map ∧
        (ordering.recompute source).rowMap? 1 = some slow ∧
        (other.recompute otherSource).rowMap? 0 = some explicit ∧
        map.PlacesAs slow ∧ map.glyph? 3 = slow.glyph? 3 ∧ map.PlacesAs explicit := by
  intro flags upper lower source view ordering otherSource other analysis
  have hview : view.IsReachable := ⟨{}, .unicode, _, rfl⟩
  have hclassifier : view.frame.classifier.OrdersSingle := Classifier.ordersSingle_unicode
  have hhead : view.frame.IsHeadOf source 0 1 :=
    ⟨by decide, .inl (by decide), (Chain.Leads.refl source 0).succ (by decide)⟩
  have hcall : view.frame.call? [upper, lower] = some ⟨['ب', 'ب', ' ', 'ب'], .auto .ltr⟩ := by
    decide +kernel
  have hanalysis : Classifier.unicode.analyze ['ب', 'ب', ' ', 'ب'] (.auto .ltr) =
      .ok analysis := by
    have hresolve : ParagraphBase.resolve (.auto .ltr) ['ب', 'ب', ' ', 'ب'] = .rtl := by
      decide +kernel
    have htext : IsParagraph ['ب', 'ب', ' ', 'ب'] := ⟨by simp, by simp [isParagraphSeparator]⟩
    rw [Classifier.analyze_unicode htext, hresolve]
  have hlevels : analysis.HasOneLevel := by
    unfold Analysis.HasOneLevel
    decide +kernel
  have htail : Chain.IsTail source 0 [upper, lower] := .more rfl rfl (.last rfl (.inl rfl))
  have hverdict := (view.frame.verdict_prepare htail).trans
    (Frame.judge_of_call? rfl hcall hanalysis)
  have hexplicit : other.frame.IsExplicitIn otherSource 0 .rtl :=
    ⟨0, _, ⟨by decide, .inl (by decide), Chain.Leads.refl _ _⟩, rfl, rfl, rfl⟩
  obtain ⟨map, slow, hmap, hslow, -, -, hplaces, hglyphs, hother⟩ :=
    placesAs_recompute hview hclassifier source hverdict hlevels hhead (by decide) rfl
  obtain ⟨explicit, hexplicitMap, hexplicitPlaces⟩ :=
    hother other otherSource 0 ⟨{}, .explicit, _, rfl⟩ rfl (by decide) hexplicit
  exact ⟨hview, hclassifier, hlevels, hhead, hexplicit, map, slow, explicit, hmap, hslow,
    hexplicitMap, hplaces, hglyphs 3, hexplicitPlaces⟩

end Viewport

end BidiViewport
