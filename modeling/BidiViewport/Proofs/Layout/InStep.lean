import BidiViewport.Proofs.Layout.Footprint
import BidiViewport.Proofs.Layout.Placement
import BidiViewport.Proofs.Layout.Straight

/-!
# Passes in step

Two frames go in step over the same rows (`Frame.InStep`) when they prepare every paragraph alike,
up to what their analyses say.  How a line is ordered and which glyphs it gets is settled after
that, so it has no part in which rows a paragraph reads and where it ends.

* Passes in step do the same work (`Frame.InStep.stats_pass`).
* Each visible row belongs to the same paragraph in both (`Frame.InStep.exists_takes`), so that two
  passes are compared by comparing the layouts that one paragraph has for one row.
-/

namespace BidiViewport

/-- The same paragraph with another analysis. -/
def PreparedParagraph.mapAnalysis (f : Analysis → Analysis) (prepared : PreparedParagraph) :
    PreparedParagraph :=
  { prepared with verdict := prepared.verdict.mapAnalysis f }

/-- What a layout costs, beside the layouts: whether it fell back, and the rows that it read. -/
def ParagraphLayout.account (paragraph : ParagraphLayout) : Bool × List Nat :=
  (paragraph.isFallback, paragraph.reads)

namespace Frame

/-- The frames prepare the same paragraphs for the same rows, with analyses that `f` relates. -/
structure InStep (a b : Frame) (source : RowSource) (f : Analysis → Analysis) : Prop where
  sameWindow : a.SameWindow b
  limit : a.limit = b.limit
  prepare : ∀ row, b.prepare source row = (a.prepare source row).mapAnalysis f

variable {a b : Frame} {source : RowSource} {f : Analysis → Analysis} {row : Nat}

/-- Another classifier that analyses the same texts goes in step. -/
theorem inStep_mapAnalyses (frame : Frame) (source : RowSource) (f : Analysis → Analysis) :
    frame.InStep { frame with classifier := frame.classifier.mapAnalyses f } source f :=
  ⟨⟨rfl, rfl, rfl⟩, rfl, fun row => frame.prepare_mapAnalyses f source row⟩

/-- Shaping comes after a paragraph is prepared. -/
theorem inStep_shaping (frame : Frame) (source : RowSource) (shaping : Bool) :
    frame.InStep { frame with shaping } source id := by
  refine ⟨⟨rfl, rfl, rfl⟩, rfl, fun row => ?_⟩
  have hverdict : (frame.prepare source row).verdict.mapAnalysis id =
      (frame.prepare source row).verdict := by
    cases (frame.prepare source row).verdict <;> rfl
  unfold PreparedParagraph.mapAnalysis
  rw [hverdict]
  rfl

namespace InStep

theorem verdict (h : a.InStep b source f) (row : Nat) :
    (b.prepare source row).verdict = (a.prepare source row).verdict.mapAnalysis f :=
  congrArg PreparedParagraph.verdict (h.prepare row)

theorem verdict_straight (h : a.InStep b source f) {direction : Direction} {cause : StraightCause}
    (hverdict : (a.prepare source row).verdict = .straight direction cause) :
    (b.prepare source row).verdict = .straight direction cause := by
  rw [h.verdict, hverdict]
  rfl

theorem verdict_analysed (h : a.InStep b source f) {lines : List Line} {analysis : Analysis}
    (hverdict : (a.prepare source row).verdict = .analysed lines analysis) :
    (b.prepare source row).verdict = .analysed lines (f analysis) := by
  rw [h.verdict, hverdict]
  rfl

theorem first_eq (h : a.InStep b source f) : a.first source = b.first source := by
  unfold first head? seeksHead
  rw [h.sameWindow.start, h.limit]

/-- Straight paragraphs are not told apart. -/
theorem layouts_straight (h : a.InStep b source f) {direction : Direction} {cause : StraightCause}
    (hverdict : (a.prepare source row).verdict = .straight direction cause) :
    (a.layoutParagraph source row).layouts = (b.layoutParagraph source row).layouts := by
  rw [Frame.layouts_straight hverdict, Frame.layouts_straight (h.verdict_straight hverdict),
    h.sameWindow.stop]

theorem length_layouts (h : a.InStep b source f) (row : Nat) :
    (a.layoutParagraph source row).layouts.length =
      (b.layoutParagraph source row).layouts.length := by
  cases hverdict : (a.prepare source row).verdict with
  | straight direction cause => rw [h.layouts_straight hverdict]
  | analysed lines analysis =>
    rw [length_layouts_analysed hverdict, length_layouts_analysed (h.verdict_analysed hverdict),
      h.limit]

theorem account_layoutParagraph (h : a.InStep b source f) (row : Nat) :
    (a.layoutParagraph source row).account = (b.layoutParagraph source row).account := by
  have hreads : (b.prepare source row).reads = (a.prepare source row).reads := by
    rw [h.prepare]
    rfl
  unfold ParagraphLayout.account layoutParagraph
  cases hverdict : (a.prepare source row).verdict with
  | straight direction cause =>
    have hverdict' := h.verdict_straight hverdict
    simp only [hverdict, hverdict', hreads, h.sameWindow.stop]
  | analysed lines analysis =>
    have hverdict' := h.verdict_analysed hverdict
    simp only [hverdict, hverdict', hreads]

/-! ## The work of a pass -/

theorem map_account_paragraphsFrom (h : a.InStep b source f) (row : Nat) :
    (a.paragraphsFrom source row).map (·.account) =
      (b.paragraphsFrom source row).map (·.account) := by
  induction row using paragraphs_induction a source with
  | next row hrow ih =>
    have hrow' : row < b.stop := h.sameWindow.stop ▸ hrow
    rw [paragraphsFrom_of_lt hrow, paragraphsFrom_of_lt hrow', List.map_cons, List.map_cons, ih,
      h.account_layoutParagraph, h.length_layouts]
  | done row hrow =>
    rw [paragraphsFrom_of_le hrow, paragraphsFrom_of_le (h.sameWindow.stop ▸ hrow)]

/-- Passes in step have as many paragraphs, read as many rows and fall back as often. -/
theorem stats_pass (h : a.InStep b source f) : (a.pass source).stats = (b.pass source).stats := by
  have haccount := h.map_account_paragraphsFrom (a.first source)
  have hlength := congrArg List.length haccount
  have hfallbacks := congrArg (List.countP (·.1)) haccount
  have hreads := congrArg (List.flatMap (·.2)) haccount
  rw [List.length_map, List.length_map] at hlength
  rw [List.countP_map, List.countP_map] at hfallbacks
  rw [List.flatMap_map, List.flatMap_map] at hreads
  have hsearch : a.searchReads source = b.searchReads source := by
    unfold searchReads seeksHead
    rw [h.sameWindow.start, h.limit]
  have hrowsRead : (a.pass source).reads.length = (b.pass source).reads.length := by
    rw [reads_pass, reads_pass, ← h.first_eq, hsearch, h.sameWindow.start]
    exact congrArg (fun reads => (b.start :: b.searchReads source ++ reads).length) hreads
  have hstats (frame : Frame) : (frame.pass source).stats =
      { paragraphs := (frame.paragraphsFrom source (frame.first source)).length
        rowsRead := (frame.pass source).reads.length
        fallbacks := (frame.paragraphsFrom source (frame.first source)).countP (·.isFallback) } :=
    rfl
  rw [hstats, hstats, ← h.first_eq, hlength, hrowsRead]
  exact congrArg _ hfallbacks

/-! ## The paragraph of a row -/

/-- A visible row has its layout from the same paragraph in both passes. -/
theorem exists_takes (h : a.InStep b source f) (hshows : a.shows row = true) :
    ∃ head, a.Takes source head row ∧
      (a.pass source).layouts[row - a.start]? =
        (a.layoutParagraph source head).layouts[row - head]? ∧
      (b.pass source).layouts[row - b.start]? =
        (b.layoutParagraph source head).layouts[row - head]? := by
  have hvisible := shows_iff.1 hshows
  have hfirst := a.first_le source
  have hshows' : b.shows row = true := h.sameWindow.shows row ▸ hshows
  rw [getElem?_layouts_pass hshows, getElem?_layouts_pass hshows', ← h.first_eq]
  exact exists_takes_both h.sameWindow.stop h.length_layouts (Nat.le_refl _) (.inl rfl) (by omega)
    hvisible.2

theorem isHeadOf (h : a.InStep b source f) {head : Nat} (hhead : a.IsHeadOf source head row) :
    b.IsHeadOf source head row := by
  refine ⟨?_, ?_, hhead.leads⟩
  · rw [← h.first_eq]
    exact hhead.first_le
  · rw [← h.first_eq]
    exact hhead.begins

end InStep

/-- A paragraph whose analysis is changed, but for its levels, gives each line to the same part of
the same glyphs as before. -/
theorem exists_line_mapAnalyses {frame : Frame} {f : Analysis → Analysis}
    (hlevels : ∀ analysis, (f analysis).levels = analysis.levels) {head i : Nat}
    {lines : List Line} {analysis : Analysis} {line : Line}
    (hverdict : (frame.prepare source head).verdict = .analysed lines analysis)
    (hline : lines[i]? = some line) :
    let start := ((lines.take i).flatMap Line.text).length
    ∃ own, (frame.layoutParagraph source head).layouts[i]? =
        some (orElseStraight analysis (line.layout frame.width analysis start own)) ∧
      ({ frame with classifier := frame.classifier.mapAnalyses f }.layoutParagraph
          source head).layouts[i]? =
        some (orElseStraight (f analysis) (line.layout frame.width (f analysis) start own)) := by
  obtain ⟨own, hown⟩ := Line.getElem?_layoutsFrom frame.width 0
    (frame.glyphs (lines.flatMap Line.text) analysis) hline
  have hglyphs : { frame with classifier := frame.classifier.mapAnalyses f }.glyphs
      (lines.flatMap Line.text) (f analysis) =
      frame.glyphs (lines.flatMap Line.text) analysis := by
    unfold glyphs
    rw [hlevels]
  have hverdict' := (frame.inStep_mapAnalyses source f).verdict_analysed hverdict
  simp only [Nat.zero_add] at hown
  refine ⟨own, ?_, ?_⟩
  · rw [layouts_analysed hverdict, List.getElem?_map, orderedLines, hown, Option.map_some]
  · rw [layouts_analysed hverdict', List.getElem?_map, orderedLines, hglyphs, hown,
      Option.map_some]

end Frame

end BidiViewport
