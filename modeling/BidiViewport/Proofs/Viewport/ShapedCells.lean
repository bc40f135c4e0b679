import BidiViewport.Classifier.Unicode
import BidiViewport.Proofs.Layout.Analyses
import BidiViewport.Proofs.Layout.Isolation
import BidiViewport.Proofs.Layout.OwnGlyphs
import BidiViewport.Proofs.Viewport.History

/-!
# Shaped cells

Letters are joined in the text of a whole paragraph, with the levels of its analysis; so they join
across soft wraps, and across the edges of the viewport.  Each glyph is drawn in the cell of its
letter: at the visual column that shows the first column of the letter's unit
(`Viewport.glyphs_recompute`).  Nothing else in the row has a glyph, whatever its maps held before.
-/

namespace BidiViewport

namespace Frame

/-- The paragraph that begins at `head` has the rows `rows`, all those of its chain, and this is
their analysis. -/
structure Analyses (frame : Frame) (source : RowSource) (head : Nat) (rows : List Row)
    (analysis : Analysis) : Prop where
  isTail : Chain.IsTail source head rows
  isAvailable : frame.classifier.isAvailable = true
  analyze_eq : ∃ call, frame.call? rows = some call ∧
    frame.classifier.analyze call.text call.base = .ok analysis

/-- How many characters of a paragraph are on the rows above its row `i`. -/
def charactersAbove (frame : Frame) (rows : List Row) (i : Nat) : Nat :=
  ((rows.take i).flatMap (Row.analysedText frame.width)).length

/-- The row `content` of a paragraph, with `start` characters of it above, does not fall back: the
paragraph is on one level, or there is an order for the characters of the row. -/
def KeepsRow (frame : Frame) (analysis : Analysis) (start : Nat) (content : Row) : Prop :=
  analysis.isSingle = true ∨ ∃ order,
    analysis.reorder start (start + (content.analysedText frame.width).length) = .ok order

variable {frame : Frame} {source : RowSource} {head row : Nat} {rows : List Row}
  {analysis : Analysis} {content : Row} {layout : RowLayout}

theorem Analyses.verdict (h : frame.Analyses source head rows analysis) :
    (frame.prepare source head).verdict =
      .analysed (rows.map (Line.ofRow frame.width)) analysis := by
  obtain ⟨call, hcall, hanalysis⟩ := h.analyze_eq
  rw [frame.verdict_prepare h.isTail, judge_of_call? h.isAvailable hcall hanalysis]

/-- The layout of a row of an analysed paragraph has the glyphs of its letters, or none if it falls
back. -/
theorem Analyses.glyphs_layout (h : frame.Analyses source head rows analysis) (hhead : head ≤ row)
    (hrow : source.rowAt row = some content)
    (hlayout : (frame.layoutParagraph source head).layouts[row - head]? = some layout) :
    let start := frame.charactersAbove rows (row - head)
    let text := rows.flatMap (Row.analysedText frame.width)
    layout.glyphs.Pairwise (·.1 < ·.1) ∧
      (frame.KeepsRow analysis start content → (Line.ofRow frame.width content).Owns start
        (frame.glyphs text analysis) layout.glyphs) ∧
      (¬frame.KeepsRow analysis start content → layout.glyphs = []) := by
  intro start text
  obtain ⟨-, own, howns, rfl⟩ := exists_owns_of_layout h.verdict hhead hrow hlayout
  have hstart : (((rows.map (Line.ofRow frame.width)).take (row - head)).flatMap
      Line.text).length = start := by
    rw [← List.map_take, Line.flatMap_text_ofRow]
    rfl
  rw [hstart, Line.flatMap_text_ofRow] at howns
  rw [hstart]
  have hkeeps : (∃ layout, (Line.ofRow frame.width content).layout frame.width analysis start own =
      .ok layout) ↔ frame.KeepsRow analysis start content := by
    rw [Line.exists_layout_iff, ← Line.length_text, Line.text_ofRow]
    rfl
  generalize hresult : (Line.ofRow frame.width content).layout frame.width analysis start own =
    result
  cases result with
  | error error =>
    refine ⟨.nil, fun hkept => ?_, fun _ => rfl⟩
    obtain ⟨layout, hok⟩ := hkeeps.2 hkept
    cases hresult.symm.trans hok
  | ok layout =>
    obtain rfl : layout.glyphs = own := Line.glyphs_layout hresult
    refine ⟨howns.sorted, fun _ => howns, fun hfalls => ?_⟩
    exact absurd (hkeeps.1 ⟨layout, hresult⟩) hfalls

/-- An analysed paragraph has the rows of its chain and an analysis of their text. -/
theorem exists_analyses {lines : List Line}
    (h : (frame.prepare source head).verdict = .analysed lines analysis) :
    ∃ rows, lines = rows.map (Line.ofRow frame.width) ∧
      frame.Analyses source head rows analysis := by
  have hprepares := frame.prepares source head
  generalize frame.prepare source head = prepared at h hprepares
  cases hprepares with
  | @analysed content base lines analysis hasks hshort htext hanalysis =>
    cases h
    have htail := Chain.isTail_tail hasks.rowAt hshort
    have hlength := Chain.length_rows_tail source frame.limit head
    have hlines := hasks.lines_eq
    generalize (Chain.tail source frame.limit head).rows = rows at htail hlength hlines
    subst hlines
    obtain ⟨first, rest, rfl, hfirst⟩ := htail.exists_head
    obtain rfl := Option.some.inj (hasks.rowAt.symm.trans hfirst)
    rw [Line.flatMap_text_ofRow] at htext hanalysis
    refine ⟨_, rfl, htail, hasks.isAvailable, ⟨_, base⟩, ?_, hanalysis⟩
    unfold call?
    rw [List.head?_cons, Option.bind_some, hasks.base?, Option.bind_some]
    exact if_pos ⟨hlength, htext⟩
  | _ => cases h

/-- Only a row that an analysed paragraph keeps has glyphs, and they are on leaders. -/
theorem Takes.exists_analyses_of_mem_glyphs (h : frame.Takes source head row)
    (hlayout : (frame.layoutParagraph source head).layouts[row - head]? = some layout)
    {placed : Nat × Char} (hplaced : placed ∈ layout.glyphs) :
    ∃ content rows analysis, source.rowAt row = some content ∧
      frame.Analyses source head rows analysis ∧
      frame.KeepsRow analysis (frame.charactersAbove rows (row - head)) content ∧
      Cell.leaderAt (content.cells.toList.take frame.width) placed.1 = true := by
  cases hverdict : (frame.prepare source head).verdict with
  | straight direction cause =>
    obtain rfl := getElem?_layouts_straight hverdict hlayout
    cases hplaced
  | analysed lines analysis =>
    obtain ⟨rows, rfl, hanalyses⟩ := exists_analyses hverdict
    obtain ⟨line, -, hline, -⟩ := exists_line_of_layout hverdict hlayout
    rw [List.getElem?_map] at hline
    obtain ⟨content, hcontent, -⟩ := Option.map_eq_some_iff.1 hline
    have hrow := hanalyses.isTail.rowAt_add hcontent
    rw [Nat.add_sub_cancel' h.head_le] at hrow
    refine ⟨content, rows, analysis, hrow, hanalyses, ?_,
      leaderAt_of_mem_glyphs h.head_le hrow hlayout hplaced⟩
    by_contra hfalls
    rw [(hanalyses.glyphs_layout h.head_le hrow hlayout).2.2 hfalls] at hplaced
    cases hplaced

/-- In a row that the paragraph keeps, a visual column has the glyph of the letter whose unit
begins at the logical column that it shows. -/
theorem Analyses.glyph?_eq_some_iff (h : frame.Analyses source head rows analysis)
    (hshaping : frame.shaping = true) (hhead : head ≤ row) (hrow : source.rowAt row = some content)
    (hlayout : (frame.layoutParagraph source head).layouts[row - head]? = some layout)
    (hbijection : layout.IsBijection frame.width)
    (hkeeps : frame.KeepsRow analysis (frame.charactersAbove rows (row - head)) content)
    {visual : Int} {glyph : Char} :
    layout.glyph? frame.width visual = some glyph ↔
      (∃ level ∈ analysis.levels, level % 2 = 1) ∧
        ∃ k unit, (frame.charactersAbove rows (row - head) + k, glyph) ∈
            shape ((rows.flatMap (Row.analysedText frame.width)).zip analysis.levels.toList) ∧
          (Line.ofRow frame.width content).units[k]? = some unit ∧
            layout.toLogical frame.width visual = unit.1 := by
  obtain ⟨hsorted, hkept, -⟩ := h.glyphs_layout hhead hrow hlayout
  have hinside : ∀ placed ∈ layout.glyphs, placed.1 < frame.width := by
    intro placed hplaced
    obtain ⟨base, marks, columns, hcell⟩ :=
      Cell.leaderAt_iff.1 (leaderAt_of_mem_glyphs hhead hrow hlayout hplaced)
    have hlt := (List.getElem?_eq_some_iff.1 hcell).1
    rw [List.length_take] at hlt
    exact Nat.lt_of_lt_of_le hlt (Nat.min_le_left _ _)
  rw [RowLayout.glyph?_eq_some_iff hbijection hsorted hinside]
  constructor
  · rintro ⟨column, hmem, hcolumn⟩
    obtain ⟨k, unit, hglyph, hunit, rfl⟩ := ((hkept hkeeps).mem_iff column glyph).1 hmem
    obtain ⟨-, hodd, hshape⟩ := mem_glyphs_iff.1 hglyph
    exact ⟨hodd, k, unit, hshape, hunit, hcolumn⟩
  · rintro ⟨hodd, k, unit, hshape, hunit, hcolumn⟩
    have hglyph := mem_glyphs_iff.2 ⟨hshaping, hodd, hshape⟩
    exact ⟨unit.1, ((hkept hkeeps).mem_iff unit.1 glyph).2 ⟨k, unit, hglyph, hunit, rfl⟩, hcolumn⟩

end Frame

namespace Viewport

/-- A visual column has a glyph only in a row that an analysed paragraph keeps, and only if it shows
the column of a leader.  In such a row it has one exactly if it shows the first column of a letter's
unit and the letter has one in the text of the whole paragraph, and then it is that glyph. -/
theorem glyphs_recompute {view : Viewport} (hview : view.IsReachable)
    (hshaping : view.frame.shaping = true) (source : RowSource)
    (hcompletes : view.frame.Completes source) (row : Nat) (hshows : view.frame.shows row = true) :
    let frame := view.frame
    ∃ map, (view.recompute source).rowMap? row = some map ∧
      (∀ visual glyph, map.glyph? visual = some glyph → ∃ content head rows analysis,
        source.rowAt row = some content ∧ frame.IsHeadOf source head row ∧
          frame.Analyses source head rows analysis ∧
          frame.KeepsRow analysis (frame.charactersAbove rows (row - head)) content ∧
          ∃ column : Nat, map.toLogical visual = column ∧
            Cell.leaderAt (content.cells.toList.take frame.width) column = true) ∧
      ∀ content head rows analysis, source.rowAt row = some content →
        frame.IsHeadOf source head row → frame.Analyses source head rows analysis →
          let start := frame.charactersAbove rows (row - head)
          let text := rows.flatMap (Row.analysedText frame.width)
          frame.KeepsRow analysis start content →
            ∃ units, Cell.ListsUnits (content.cells.toList.take frame.width) units ∧
              ∀ visual glyph, map.glyph? visual = some glyph ↔
                (∃ level ∈ analysis.levels, level % 2 = 1) ∧
                  ∃ k unit, (start + k, glyph) ∈ shape (text.zip analysis.levels.toList) ∧
                    units[k]? = some unit ∧ map.toLogical visual = unit.1 := by
  intro frame
  obtain ⟨map, layout, hmap, hlayout, hwidth, hshown⟩ :=
    (hview.isSound.isCurrent_recompute source).rowMap? row hshows
  have hwidth : map.width = frame.width := hwidth
  have hbijection : layout.IsBijection frame.width :=
    hcompletes layout (List.mem_of_getElem? hlayout)
  have hmap' : map.Shows layout := hshown hbijection
  refine ⟨map, hmap, fun visual glyph hglyph => ?_, ?_⟩
  · obtain ⟨head, htakes, hsame⟩ := Frame.exists_takes source hshows
    rw [hmap'.glyph?, hwidth] at hglyph
    obtain ⟨column, hmem, hcolumn⟩ := RowLayout.exists_mem_glyphs_of_glyph? hglyph
    obtain ⟨content, rows, analysis, hrow, hanalyses, hkeeps, hleader⟩ :=
      htakes.exists_analyses_of_mem_glyphs (hsame.symm.trans hlayout) hmem
    have hhead : frame.IsHeadOf source head row := by
      obtain ⟨first, -, -, hfirst⟩ := hanalyses.isTail.exists_head
      exact htakes.isHeadOf (Option.isSome_of_eq_some hfirst)
    refine ⟨content, head, rows, analysis, hrow, hhead, hanalyses, hkeeps, column, ?_, hleader⟩
    rw [hmap'.toLogical, hwidth, hcolumn]
  · intro content head rows analysis hrow hhead hanalyses start text hkeeps
    obtain ⟨-, hlast⟩ := hhead.takes hshows (Option.isSome_of_eq_some hrow)
    refine ⟨_, Line.listsUnits_ofRow frame.width content, fun visual glyph => ?_⟩
    rw [hmap'.glyph?, hmap'.toLogical, hwidth]
    exact hanalyses.glyph?_eq_some_iff hshaping hhead.leads.le hrow (hlast.symm.trans hlayout)
      hbijection hkeeps

/-- The second row of a paragraph, which begins above the viewport.  Its first letter is joined to
the last one of the row above, and its last one comes behind a wide character. -/
theorem glyphs_recompute_wrapped :
    let flags : DirectionFlags := { implicit := true, auto := true }
    let upper : Row := { cells := #[.leader 'a' [] 1, .leader 'ب' [] 1], softWrapped := true, flags }
    let lower : Row :=
      { cells := #[.leader 'ب' [] 1, .leader 'ب' [] 1, .leader '世' [] 2, .fragment 2,
          .leader 'ب' [] 1], flags }
    let source := ((Scrollback.empty 4).extend [upper, lower]).source
    let view := (new {} .unicode).replay [(source, .set (.width 5)), (source, .set (.rows 1 1))]
    let analysis := Classifier.analysis .ltr ['a', 'ب', 'ب', 'ب', '世', 'ب']
    view.IsReachable ∧ view.frame.shaping = true ∧ view.frame.Completes source ∧
      view.frame.shows 1 = true ∧ source.rowAt 1 = some lower ∧
      view.frame.IsHeadOf source 0 1 ∧ view.frame.Analyses source 0 [upper, lower] analysis ∧
      view.frame.KeepsRow analysis 2 lower ∧
      ∃ map, (view.recompute source).rowMap? 1 = some map ∧
        map.glyph? 1 = some '\uFE92' ∧ map.glyph? 4 = some '\uFE8F' := by
  intro flags upper lower source view analysis
  have hview : view.IsReachable := ⟨{}, .unicode, _, rfl⟩
  have hcompletes : view.frame.Completes source :=
    Frame.completes_of_wellFormed Classifier.wellFormed_unicode source
  have hleads : Chain.Leads source 0 1 := (Chain.Leads.refl source 0).succ (by decide)
  have hhead : view.frame.IsHeadOf source 0 1 := ⟨by decide, .inl (by decide), hleads⟩
  have hcall : view.frame.call? [upper, lower] =
      some ⟨['a', 'ب', 'ب', 'ب', '世', 'ب'], .auto .ltr⟩ := by decide +kernel
  have hanalysis : Classifier.unicode.analyze ['a', 'ب', 'ب', 'ب', '世', 'ب'] (.auto .ltr) =
      .ok analysis := by
    have htext : IsParagraph ['a', 'ب', 'ب', 'ب', '世', 'ب'] :=
      ⟨by simp, by simp [isParagraphSeparator]⟩
    have hresolve : ParagraphBase.resolve (.auto .ltr) ['a', 'ب', 'ب', 'ب', '世', 'ب'] = .ltr := by
      decide +kernel
    rw [Classifier.analyze_unicode htext, hresolve]
  have hanalyses : view.frame.Analyses source 0 [upper, lower] analysis :=
    ⟨.more rfl rfl (.last rfl (.inl rfl)), rfl, _, hcall, hanalysis⟩
  have hkeeps : view.frame.KeepsRow analysis 2 lower :=
    .inr ⟨{ visual := #[1, 0, 2, 3], levels := #[1, 1, 0, 1] }, by decide +kernel⟩
  obtain ⟨map, hmap, -, hglyphs⟩ := glyphs_recompute hview rfl source hcompletes 1 (by decide)
  obtain ⟨units, hunits, hglyph⟩ :=
    hglyphs lower 0 [upper, lower] analysis rfl hhead hanalyses hkeeps
  obtain rfl := hunits.unique (Line.listsUnits_ofRow view.frame.width lower)
  have hodd : ∃ level ∈ analysis.levels, level % 2 = 1 := ⟨1, by decide +kernel, rfl⟩
  have hlogical : ((view.recompute source).rowMap? 1).map (fun map =>
      (map.toLogical 1, map.toLogical 4)) = some (0, 4) := by decide +kernel
  rw [hmap] at hlogical
  obtain ⟨hfirst, hlast⟩ := Prod.mk.inj (Option.some.inj hlogical)
  refine ⟨hview, rfl, hcompletes, by decide, rfl, hhead, hanalyses, hkeeps, map, hmap, ?_, ?_⟩
  · exact (hglyph 1 '\uFE92').2 ⟨hodd, 0, (0, 1), by decide +kernel, rfl, hfirst⟩
  · exact (hglyph 4 '\uFE8F').2 ⟨hodd, 3, (4, 1), by decide +kernel, rfl, hlast⟩

end Viewport

end BidiViewport
