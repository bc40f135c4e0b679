import BidiViewport.Classifier.Unicode
import BidiViewport.Proofs.Layout.Analyses
import BidiViewport.Proofs.Layout.InStep
import BidiViewport.Proofs.Layout.Isolation
import BidiViewport.Proofs.Viewport.History

/-!
# Lines without an order

A classifier may order some lines of a paragraph and fail for others.  The rows of the lines that
fail are laid out straight in the direction that the analysis found, and all other rows are laid out
as if no line had failed (`Viewport.agree_failingAt`).

Two viewports are compared, one of which has a classifier that fails for the lines that begin at
certain characters of their paragraph (`Classifier.failingAt`).  The failure shows when a line is
ordered, and a paragraph on one level orders none of its lines.
-/

namespace BidiViewport

/-! ## Failures -/

/-- The same analysis with failures for the lines that begin at some characters. -/
def Analysis.failingAt (failure : Nat → Option ClassifyError) (a : Analysis) : Analysis :=
  { a with
    reorder := fun start stop =>
      match failure start with
      | some error => .error error
      | none => a.reorder start stop }

/-- A classifier that fails for the lines that begin at some characters of their paragraph, and is
as before for all others. -/
def Classifier.failingAt (failure : Nat → Option ClassifyError) (c : Classifier) : Classifier :=
  c.mapAnalyses (.failingAt failure)

namespace Line

variable {line : Line} {width start : Nat} {analysis : Analysis} {glyphs : List (Nat × Char)}
  {failure : Nat → Option ClassifyError}

theorem layout_failingAt {error : ClassifyError} (hmixed : analysis.isSingle = false)
    (hfailure : failure start = some error) :
    line.layout width (analysis.failingAt failure) start glyphs = .error error := by
  have hmixed' : (analysis.failingAt failure).isSingle = false := hmixed
  have hreorder (stop : Nat) : (analysis.failingAt failure).reorder start stop = .error error := by
    unfold Analysis.failingAt
    dsimp only
    rw [hfailure]
  unfold layout
  rw [hmixed', hreorder]
  rfl

/-- A line that is not ordered, or does not fail, is laid out as before. -/
theorem layout_failingAt_of_none (h : analysis.isSingle = true ∨ failure start = none) :
    line.layout width (analysis.failingAt failure) start glyphs =
      line.layout width analysis start glyphs := by
  have hsingle : (analysis.failingAt failure).isSingle = analysis.isSingle := rfl
  unfold layout
  rw [hsingle]
  rcases h with hlevel | hnone
  · rw [if_pos hlevel, if_pos hlevel]
    rfl
  · have hreorder (stop : Nat) :
        (analysis.failingAt failure).reorder start stop = analysis.reorder start stop := by
      unfold Analysis.failingAt
      dsimp only
      rw [hnone]
    rw [hreorder]
    rfl

end Line

/-! ## Rows of a pass -/

namespace Frame

/-- The row belongs to an analysed paragraph, and its line begins at the character `start` of it. -/
def HasLine (frame : Frame) (source : RowSource) (row start : Nat) (analysis : Analysis) : Prop :=
  ∃ head lines, frame.IsHeadOf source head row ∧
    (frame.prepare source head).verdict = .analysed lines analysis ∧ row - head < lines.length ∧
    start = ((lines.take (row - head)).flatMap Line.text).length

variable {frame : Frame} {source : RowSource} {row head start : Nat} {analysis : Analysis}
  {lines : List Line} {failure : Nat → Option ClassifyError}

/-- The same frame with a classifier that fails for some lines. -/
def failingAt (frame : Frame) (failure : Nat → Option ClassifyError) : Frame :=
  { frame with classifier := frame.classifier.failingAt failure }

theorem inStep_failingAt (frame : Frame) (source : RowSource)
    (failure : Nat → Option ClassifyError) :
    frame.InStep (frame.failingAt failure) source (.failingAt failure) :=
  frame.inStep_mapAnalyses source _

/-- The rows with lines are present. -/
theorem isSome_of_lt_length
    (hverdict : (frame.prepare source head).verdict = .analysed lines analysis)
    (hle : head ≤ row) (hlt : row - head < lines.length) : (source.rowAt row).isSome = true := by
  obtain ⟨-, rfl, -⟩ := analysed_of_prepare hverdict
  rw [List.length_map] at hlt
  have hpresent := Chain.rowAt_of_tail (List.getElem?_eq_getElem hlt)
  rw [Nat.add_sub_cancel' hle] at hpresent
  rw [hpresent]
  rfl

/-- The row that a paragraph takes has a line when the paragraph is analysed. -/
theorem Takes.hasLine (htakes : frame.Takes source head row)
    (hverdict : (frame.prepare source head).verdict = .analysed lines analysis) :
    ∃ line, lines[row - head]? = some line ∧
      frame.HasLine source row ((lines.take (row - head)).flatMap Line.text).length analysis := by
  have hlt : row - head < lines.length := by
    have hend := htakes.lt_end
    have hle := htakes.head_le
    rw [layouts_analysed hverdict, List.length_map, orderedLines, Line.length_layoutsFrom] at hend
    omega
  have hrow := isSome_of_lt_length hverdict htakes.head_le hlt
  have hhead := htakes.isHeadOf (htakes.leads.isSome_head hrow)
  exact ⟨_, List.getElem?_eq_getElem hlt, head, lines, hhead, hverdict, hlt, rfl⟩

/-- A row whose line fails is laid out straight, in the direction of its paragraph. -/
theorem HasLine.layout_failingAt (h : frame.HasLine source row start analysis)
    (hshows : frame.shows row = true) (hmixed : analysis.isSingle = false)
    (hfailure : (failure start).isSome = true) :
    ((frame.failingAt failure).pass source).layouts[row - frame.start]? =
      some { direction := analysis.direction, hasForeign := true } := by
  obtain ⟨head, lines, hhead, hverdict, hlt, rfl⟩ := h
  obtain ⟨error, herror⟩ := Option.isSome_iff_exists.1 hfailure
  have hrow := isSome_of_lt_length hverdict hhead.leads.le hlt
  have hshows' : (frame.failingAt failure).shows row = true := hshows
  obtain ⟨-, hsame⟩ := ((frame.inStep_failingAt source failure).isHeadOf hhead).takes hshows' hrow
  obtain ⟨own, -, hlayout⟩ := exists_line_mapAnalyses (f := .failingAt failure) (fun _ => rfl)
    hverdict (List.getElem?_eq_getElem hlt)
  rw [Line.layout_failingAt hmixed herror] at hlayout
  exact hsame.trans hlayout

/-- A row whose line does not fail is laid out as if no line had failed. -/
theorem layouts_failingAt (hshows : frame.shows row = true)
    (h : ∀ start analysis, frame.HasLine source row start analysis →
      analysis.isSingle = true ∨ failure start = none) :
    ((frame.failingAt failure).pass source).layouts[row - frame.start]? =
      (frame.pass source).layouts[row - frame.start]? := by
  have hstep := frame.inStep_failingAt source failure
  obtain ⟨head, htakes, hsame, hsame'⟩ := hstep.exists_takes hshows
  rw [hsame]
  refine hsame'.trans ?_
  cases hverdict : (frame.prepare source head).verdict with
  | straight direction cause => rw [hstep.layouts_straight hverdict]
  | analysed lines analysis =>
    obtain ⟨line, hline, hhas⟩ := htakes.hasLine hverdict
    obtain ⟨own, hlayout, hlayout'⟩ := exists_line_mapAnalyses (f := .failingAt failure)
      (fun _ => rfl) hverdict hline
    rw [Line.layout_failingAt_of_none (h _ _ hhas)] at hlayout'
    exact hlayout'.trans hlayout.symm

end Frame

/-! ## Viewports -/

namespace Viewport

/-- A viewport, and one whose classifier fails for the lines that begin at some characters.  They do
the same work and agree about every row, unless the row belongs to a paragraph of several levels
and its line fails.  Such a row is straight in the direction of its paragraph. -/
theorem agree_failingAt {view failing : Viewport} (hview : view.IsReachable)
    (hfailing : failing.IsReachable) {failure : Nat → Option ClassifyError}
    (hframe : failing.frame = view.frame.failingAt failure) (source : RowSource) :
    (failing.recompute source).stats = (view.recompute source).stats ∧
      ∀ row, view.frame.shows row = true →
        ((∀ start analysis, view.frame.HasLine source row start analysis →
            analysis.isSingle = true ∨ failure start = none) →
          failing.maps = view.maps ∨ view.frame.Completes source →
          ∃ map map', (view.recompute source).rowMap? row = some map ∧
            (failing.recompute source).rowMap? row = some map' ∧ map.Agree map') ∧
        ∀ start analysis, view.frame.HasLine source row start analysis →
          analysis.isSingle = false → (failure start).isSome = true →
          ∃ map, (failing.recompute source).rowMap? row = some map ∧
            map.width = view.frame.width ∧
            map.Shows { direction := analysis.direction, hasForeign := true } ∧
            ∀ visual, map.glyph? visual = none := by
  have hstep : view.frame.InStep failing.frame source (.failingAt failure) := by
    rw [hframe]
    exact view.frame.inStep_failingAt source failure
  have hcurrent := hfailing.isSound.isCurrent_recompute source
  refine ⟨hstep.stats_pass.symm, ?_⟩
  intro row hshows
  have hshows' : failing.frame.shows row = true := hstep.sameWindow.shows row ▸ hshows
  constructor
  · intro hunaffected hstorage
    have hlayouts : (failing.frame.pass source).layouts[row - failing.frame.start]? =
        (view.frame.pass source).layouts[row - view.frame.start]? := by
      rw [← hstep.sameWindow.start, hframe]
      exact Frame.layouts_failingAt hshows hunaffected
    rcases hstorage with hmaps | hcompletes
    · obtain ⟨map, hmap, hfits⟩ := hview.isSound.exists_map hshows
      obtain ⟨layout, hlayout⟩ := Frame.exists_layout source hshows
      have hmap' := hmap
      rw [← hmaps, hstep.sameWindow.start] at hmap'
      exact ⟨_, _, rowMap?_recompute_of_layout hshows hmap hlayout,
        rowMap?_recompute_of_layout hshows' hmap' (hlayouts.trans hlayout), .refl _⟩
    · exact (hview.isSound.isCurrent_recompute source).exists_agree hcurrent
        hstep.sameWindow.width hcompletes hshows hshows' hlayouts.symm
  · intro start analysis hline hmixed hfailure
    have hlayout := hline.layout_failingAt hshows hmixed hfailure
    have hlayout' : (failing.frame.pass source).layouts[row - failing.frame.start]? =
        some { direction := analysis.direction, hasForeign := true } := by
      rw [← hstep.sameWindow.start, hframe]
      exact hlayout
    obtain ⟨map, hmap, hwidth, hshown⟩ := hcurrent.exists_shows hshows' hlayout'
      (RowLayout.isBijection_straight _ _ _)
    refine ⟨map, hmap, hwidth.trans hstep.sameWindow.width.symm, hshown, ?_⟩
    intro visual
    rw [hshown.glyph?]
    rfl

/-- A paragraph of three rows, of which the middle one has no order, in maps that hold the order
of every row. -/
theorem agree_failingAt_middle :
    let flags : DirectionFlags := { implicit := true, auto := true }
    let upper : Row := { cells := #[.leader 'א' [] 1, .leader 'b' [] 1], softWrapped := true, flags }
    let middle : Row := { cells := #[.leader 'c' [] 1, .leader 'ב' [] 1], softWrapped := true, flags }
    let lower : Row := { cells := #[.leader 'd' [] 1, .leader 'ג' [] 1], flags }
    let source := ((Scrollback.empty 4).extend [upper, middle, lower]).source
    let failure : Nat → Option ClassifyError := fun start =>
      if start = 2 then some (.lineOutOfRange start start 0) else none
    let view := (new {} .unicode).replay [(source, .set (.width 3)), (source, .set (.rows 0 3)),
      (source, .recompute)]
    let failing := view.setClassifier (view.frame.classifier.failingAt failure)
    let analysis := Classifier.analysis .rtl ['א', 'b', 'c', 'ב', 'd', 'ג']
    view.IsReachable ∧ failing.IsReachable ∧ view.frame.HasLine source 1 2 analysis ∧
      (failing.recompute source).stats = (view.recompute source).stats ∧
      (∃ map map', (view.recompute source).rowMap? 2 = some map ∧
        (failing.recompute source).rowMap? 2 = some map' ∧ map.Agree map') ∧
      ∃ map, (failing.recompute source).rowMap? 1 = some map ∧
        map.Shows { direction := .rtl, hasForeign := true } := by
  intro flags upper middle lower source failure view failing analysis
  have hview : view.IsReachable := ⟨{}, .unicode, _, rfl⟩
  have hfailing : failing.IsReachable := hview.step source (.set (.classifier _))
  have htail : Chain.IsTail source 0 [upper, middle, lower] :=
    .more rfl rfl (.more rfl rfl (.last rfl (.inl rfl)))
  have hcall : view.frame.call? [upper, middle, lower] =
      some ⟨['א', 'b', 'c', 'ב', 'd', 'ג'], .auto .ltr⟩ := by
    decide +kernel
  have hanalysis : Classifier.unicode.analyze ['א', 'b', 'c', 'ב', 'd', 'ג'] (.auto .ltr) =
      .ok analysis := by
    have hresolve : ParagraphBase.resolve (.auto .ltr) ['א', 'b', 'c', 'ב', 'd', 'ג'] = .rtl := by
      decide +kernel
    have htext : IsParagraph ['א', 'b', 'c', 'ב', 'd', 'ג'] :=
      ⟨by simp, by simp [isParagraphSeparator]⟩
    rw [Classifier.analyze_unicode htext, hresolve]
  have hverdict := (view.frame.verdict_prepare htail).trans
    (Frame.judge_of_call? rfl hcall hanalysis)
  have hmixed : analysis.isSingle = false := by decide +kernel
  have hleads : Chain.Leads source 0 1 := (Chain.Leads.refl source 0).succ (by decide)
  have hhead : view.frame.IsHeadOf source 0 1 := ⟨by decide, .inl (by decide), hleads⟩
  have hline : view.frame.HasLine source 1 2 analysis :=
    ⟨0, _, hhead, hverdict, by decide, rfl⟩
  obtain ⟨hstats, hrows⟩ := agree_failingAt hview hfailing rfl source
  obtain ⟨hunaffected, -⟩ := hrows 2 (by decide)
  obtain ⟨-, hlost⟩ := hrows 1 (by decide)
  obtain ⟨map, hmap, -, hshown, -⟩ := hlost 2 analysis hline hmixed rfl
  refine ⟨hview, hfailing, hline, hstats, hunaffected ?_ (.inl rfl), map, hmap, hshown⟩
  intro start other hother
  obtain ⟨head, lines, hhead', hverdict', -, rfl⟩ := hother
  -- The last line begins behind four characters.
  obtain rfl : head = 0 := hhead'.unique (hhead.succ (by decide))
  obtain ⟨rfl, rfl⟩ := Verdict.analysed.inj (hverdict'.symm.trans hverdict)
  exact .inr rfl

end Viewport

end BidiViewport
