import BidiViewport.Proofs.Bidi.Levels
import BidiViewport.Proofs.Layout.Analyses
import BidiViewport.Proofs.Layout.Isolation
import BidiViewport.Proofs.Viewport.Cohesion

/-!
# Rows marked as mixed

With the bidirectional algorithm a row is marked when its paragraph has a character on another level
than its own.  That is more than the mark is there to say, that the paragraph mixes directions:
an embedding in the paragraph's own direction, or an Arabic number in a left-to-right paragraph,
stands on a higher level and runs the same way (`Viewport.hasForeign_recompute`, and
`Viewport.hasForeign_of_arabic_number` for the smallest text).

In a right-to-left paragraph the difference takes an embedding, an override or an isolate.  Without
them a character that is not on the paragraph's level runs from left to right.
-/

namespace BidiViewport

namespace Analysis

/-- A character has another direction than the paragraph. -/
def MixesDirections (a : Analysis) : Prop :=
  ∃ level ∈ a.levels, Direction.ofLevel level ≠ a.direction

/-- A character has the direction of the paragraph on a higher level. -/
def NestsOwnDirection (a : Analysis) : Prop :=
  ∃ level ∈ a.levels, a.direction.level < level ∧ Direction.ofLevel level = a.direction

end Analysis

namespace Classifier

variable {direction : Direction} {text : List Char}

theorem mem_levels_analysis {level : Nat} :
    level ∈ (analysis direction text).levels ↔ level ∈ paragraphLevels direction.level text :=
  List.mem_toArray

theorem isSingle_eq_false_iff : (analysis direction text).isSingle = false ↔
    ∃ level ∈ (analysis direction text).levels, level ≠ direction.level := by
  rw [← Bool.not_eq_true]
  unfold analysis
  dsimp only
  rw [Array.all_eq_true_iff_forall_mem]
  constructor
  · intro h
    by_contra hall
    refine h fun level hlevel => ?_
    by_contra hne
    exact hall ⟨level, hlevel, fun heq => hne (beq_iff_eq.2 heq)⟩
  · rintro ⟨level, hlevel, hne⟩ hall
    exact hne (beq_iff_eq.1 (hall level hlevel))

/-- What is not on the level of the paragraph has another direction or is further up. -/
theorem isSingle_eq_false_iff_mixes : (analysis direction text).isSingle = false ↔
    (analysis direction text).MixesDirections ∨ (analysis direction text).NestsOwnDirection := by
  have hdirection : (analysis direction text).direction = direction := rfl
  rw [isSingle_eq_false_iff]
  constructor
  · rintro ⟨level, hlevel, hne⟩
    by_cases hown : Direction.ofLevel level = direction
    · have hle := le_of_mem_paragraphLevels (mem_levels_analysis.1 hlevel)
      exact .inr ⟨level, hlevel, Nat.lt_of_le_of_ne hle (Ne.symm hne), hown⟩
    · exact .inl ⟨level, hlevel, hown⟩
  · rintro (⟨level, hlevel, hother⟩ | ⟨level, hlevel, hlt, -⟩)
    · refine ⟨level, hlevel, ?_⟩
      rintro rfl
      exact hother (Direction.ofLevel_level direction)
    · exact ⟨level, hlevel, Nat.ne_of_gt hlt⟩

/-- From right to left only a scope takes a character to a higher level of its own direction. -/
theorem not_nestsOwnDirection_rtl (hplain : ∀ c ∈ text, (BidiClass.of c).opensScope = false) :
    ¬(analysis .rtl text).NestsOwnDirection := by
  rintro ⟨level, hlevel, hlt, hown⟩
  rcases eq_or_eq_of_mem_paragraphLevels hplain (mem_levels_analysis.1 hlevel) with rfl | rfl
  · exact Nat.lt_irrefl _ hlt
  · cases hown

end Classifier

namespace Viewport

/-- A row of an analysed paragraph is marked when the paragraph mixes directions, and also when a
part of it has the paragraph's own direction on a higher level.  The mark says no more than the
first in a right-to-left paragraph without embeddings, overrides and isolates. -/
theorem hasForeign_recompute {view : Viewport} (hview : view.IsReachable)
    (hclassifier : view.frame.classifier = .unicode) (source : RowSource) {head row : Nat}
    {lines : List Line} {analysis : Analysis}
    (hverdict : (view.frame.prepare source head).verdict = .analysed lines analysis)
    (hhead : view.frame.IsHeadOf source head row) (hshows : view.frame.shows row = true)
    (hrow : (source.rowAt row).isSome = true) :
    ∃ map, (view.recompute source).rowMap? row = some map ∧ map.direction = analysis.direction ∧
      (map.hasForeign = true ↔ analysis.MixesDirections ∨ analysis.NestsOwnDirection) ∧
      (analysis.direction = .rtl →
        (∀ c ∈ lines.flatMap Line.text, (BidiClass.of c).opensScope = false) →
        (map.hasForeign = true ↔ analysis.MixesDirections)) := by
  obtain ⟨map, hmap, hdirection, hforeign⟩ :=
    hview.isSound.exists_map_of_isHeadOf hhead hshows hrow
  rw [hverdict] at hdirection hforeign
  obtain ⟨-, -, base, hanalysis⟩ := Frame.analysed_of_prepare hverdict
  rw [hclassifier] at hanalysis
  obtain rfl := Classifier.eq_analysis_of_analyze hanalysis
  generalize lines.flatMap Line.text = text at hdirection hforeign ⊢
  generalize base.resolve text = direction at hdirection hforeign ⊢
  have hmixed : map.hasForeign = true ↔ (Classifier.analysis direction text).MixesDirections ∨
      (Classifier.analysis direction text).NestsOwnDirection := by
    rw [← Classifier.isSingle_eq_false_iff_mixes, hforeign]
    simp only [Verdict.isMixed, Bool.not_eq_true']
  refine ⟨map, hmap, hdirection, hmixed, ?_⟩
  intro hrtl hplain
  obtain rfl : direction = .rtl := hrtl
  rw [hmixed]
  exact or_iff_left (Classifier.not_nestsOwnDirection_rtl hplain)

/-- A Latin letter and an Arabic digit: both run from left to right, and the row is marked. -/
theorem hasForeign_of_arabic_number :
    let flags : DirectionFlags := { implicit := true }
    let content : Row := { cells := #[.leader 'a' [] 1, .leader '١' [] 1], flags }
    let source := ((Scrollback.empty 4).extend [content]).source
    let view := (new {} .unicode).replay [(source, .set (.width 2)), (source, .set (.rows 0 1))]
    let analysis := Classifier.analysis .ltr ['a', '١']
    view.frame.shows 0 = true ∧ (∃ lines, (view.frame.prepare source 0).verdict =
      .analysed lines analysis) ∧ ¬analysis.MixesDirections ∧
      ∃ map, (view.recompute source).rowMap? 0 = some map ∧ map.hasForeign = true := by
  intro flags content source view analysis
  have htail : Chain.IsTail source 0 [content] := .last rfl (.inl rfl)
  have hcall : view.frame.call? [content] = some ⟨['a', '١'], .fixed .ltr⟩ := by decide +kernel
  have hanalysis : Classifier.unicode.analyze ['a', '١'] (.fixed .ltr) = .ok analysis := by
    have htext : IsParagraph ['a', '١'] := ⟨by simp, by simp [isParagraphSeparator]⟩
    exact Classifier.analyze_unicode htext _
  have hverdict := (view.frame.verdict_prepare htail).trans
    (Frame.judge_of_call? rfl hcall hanalysis)
  have hlevels : ∀ level ∈ analysis.levels, Direction.ofLevel level = analysis.direction := by
    decide +kernel
  have hanswer : ((view.recompute source).rowMap? 0).map (·.hasForeign) = some true := by
    decide +kernel
  obtain ⟨map, hmap, hforeign⟩ := Option.map_eq_some_iff.1 hanswer
  refine ⟨by decide, ⟨_, hverdict⟩, ?_, map, hmap, hforeign⟩
  rintro ⟨level, hlevel, hother⟩
  exact hother (hlevels level hlevel)

/-- The second row of a right-to-left paragraph, whose only left-to-right character is a number in
the first. -/
theorem hasForeign_recompute_number :
    let flags : DirectionFlags := { implicit := true, rtl := true }
    let upper : Row := { cells := #[.leader 'א' [] 1, .leader '1' [] 1], softWrapped := true, flags }
    let lower : Row := { cells := #[.leader 'ב' [] 1], flags }
    let source := ((Scrollback.empty 4).extend [upper, lower]).source
    let view := (new {} .unicode).replay [(source, .set (.width 2)), (source, .set (.rows 1 1))]
    let analysis := Classifier.analysis .rtl ['א', '1', 'ב']
    view.IsReachable ∧ view.frame.classifier = .unicode ∧ view.frame.IsHeadOf source 0 1 ∧
      analysis.MixesDirections ∧
      ∃ map, (view.recompute source).rowMap? 1 = some map ∧ map.direction = .rtl ∧
        map.hasForeign = true := by
  intro flags upper lower source view analysis
  have hview : view.IsReachable := ⟨{}, .unicode, _, rfl⟩
  have hclassifier : view.frame.classifier = .unicode := rfl
  have hleads : Chain.Leads source 0 1 := (Chain.Leads.refl source 0).succ (by decide)
  have hhead : view.frame.IsHeadOf source 0 1 := ⟨by decide, .inl (by decide), hleads⟩
  have htail : Chain.IsTail source 0 [upper, lower] := .more rfl rfl (.last rfl (.inl rfl))
  have hcall : view.frame.call? [upper, lower] = some ⟨['א', '1', 'ב'], .fixed .rtl⟩ := by
    decide +kernel
  have hanalysis : Classifier.unicode.analyze ['א', '1', 'ב'] (.fixed .rtl) = .ok analysis := by
    have htext : IsParagraph ['א', '1', 'ב'] := ⟨by simp, by simp [isParagraphSeparator]⟩
    exact Classifier.analyze_unicode htext _
  have hverdict := (view.frame.verdict_prepare htail).trans
    (Frame.judge_of_call? rfl hcall hanalysis)
  have hmixes : analysis.MixesDirections := ⟨2, by decide +kernel, by decide⟩
  obtain ⟨map, hmap, hdirection, -, hmark⟩ :=
    hasForeign_recompute hview hclassifier source hverdict hhead (by decide) rfl
  have htext : ([upper, lower].map (Line.ofRow view.frame.width)).flatMap Line.text =
      ['א', '1', 'ב'] := by
    decide
  have hplain : ∀ c ∈ ([upper, lower].map (Line.ofRow view.frame.width)).flatMap Line.text,
      (BidiClass.of c).opensScope = false := by
    rw [htext]
    simp only [List.forall_mem_cons, List.not_mem_nil, false_implies, implies_true, and_true]
    exact ⟨by decide +kernel, by decide +kernel, by decide +kernel⟩
  exact ⟨hview, hclassifier, hhead, hmixes, map, hmap, hdirection, (hmark rfl hplain).2 hmixes⟩

end Viewport

end BidiViewport
