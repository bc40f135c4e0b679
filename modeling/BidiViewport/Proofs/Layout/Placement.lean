import BidiViewport.Proofs.Layout.Paragraphs

/-!
# The paragraph of a row

A pass goes from paragraph to paragraph.  Here it is seen from a row: `Frame.Takes` says that
a paragraph of the pass begins at one row and lays out another.

* Every visible row is taken by a paragraph, and gets the layout that this paragraph has for it
  (`Frame.exists_takes`).
* The paragraph of a row that is present is told by the rows alone: it begins where the chain
  of the row does, or where the pass does (`Frame.IsHeadOf.takes`).
* The layouts of a paragraph agree in their direction and in whether they are mixed
  (`Frame.layout_of_mem`); both are decided before any line is ordered.
-/

namespace BidiViewport

/-! ## Verdicts seen from a row -/

namespace Verdict

/-- The direction of all rows of the paragraph. -/
def direction : Verdict → Direction
  | straight direction _ => direction
  | analysed _ analysis => analysis.direction

/-- The paragraph mixes directions. -/
def isMixed : Verdict → Bool
  | straight .. => false
  | analysed _ analysis => !analysis.isSingle

/-- The paragraph asked for the bidirectional algorithm in vain. -/
def isFallback : Verdict → Bool
  | straight _ cause => cause.isFallback
  | analysed .. => false

/-- The same verdict with another analysis. -/
def mapAnalysis (f : Analysis → Analysis) : Verdict → Verdict
  | straight direction cause => straight direction cause
  | analysed lines analysis => analysed lines (f analysis)

end Verdict

/-- The classifier that changes all analyses of another one. -/
def Classifier.mapAnalyses (f : Analysis → Analysis) (c : Classifier) : Classifier :=
  { c with analyze := fun text base => (c.analyze text base).map f }

namespace Line

/-- The lines of a paragraph are laid out one by one, each from the character on at which it
begins.  Its glyphs do not depend on the analysis that orders it. -/
theorem getElem?_layoutsFrom (width start : Nat) (glyphs : List (Nat × Char))
    {lines : List Line} {i : Nat} {line : Line} (hline : lines[i]? = some line) :
    ∃ own, ∀ analysis, (layoutsFrom width analysis start glyphs lines)[i]? =
      some (line.layout width analysis (start + ((lines.take i).flatMap text).length) own) := by
  induction lines generalizing start glyphs i with
  | nil => cases hline
  | cons first rest ih =>
    cases i with
    | zero =>
      obtain rfl : first = line := Option.some.inj hline
      exact ⟨_, fun _ => rfl⟩
    | succ i =>
      obtain ⟨own, hown⟩ := ih (start + first.spans.size)
        (glyphs.span (·.1 < start + first.spans.size)).2 hline
      refine ⟨own, fun analysis => ?_⟩
      rw [List.take_succ_cons, List.flatMap_cons, List.length_append, length_text,
        ← Nat.add_assoc]
      exact hown analysis

/-- A line begins in the text of its paragraph, and ends there. -/
theorem length_text_take_add {lines : List Line} {i : Nat} {line : Line}
    (hline : lines[i]? = some line) :
    ((lines.take i).flatMap text).length + line.spans.size ≤ (lines.flatMap text).length := by
  obtain ⟨hlt, rfl⟩ := List.getElem?_eq_some_iff.1 hline
  have hsplit := congrArg (fun lines => (List.flatMap text lines).length)
    (List.take_append_drop i lines)
  rw [List.drop_eq_getElem_cons hlt] at hsplit
  simp only [List.flatMap_append, List.flatMap_cons, List.length_append, length_text] at hsplit
  omega

theorem layout_of_reorder {line : Line} {width start : Nat} {analysis : Analysis}
    {glyphs : List (Nat × Char)} {order : LineOrder} (hmixed : analysis.isSingle = false)
    (horder : analysis.reorder start (start + line.spans.size) = .ok order) :
    line.layout width analysis start glyphs = .ok
      { direction := analysis.direction
        hasForeign := true
        arrangement := .ordered (line.columns width analysis.direction order) glyphs } := by
  unfold Line.layout
  rw [hmixed, horder]
  rfl

theorem layout_ok {line : Line} {width start : Nat} {analysis : Analysis}
    {glyphs : List (Nat × Char)} {layout : RowLayout}
    (h : line.layout width analysis start glyphs = .ok layout) :
    layout.direction = analysis.direction ∧ layout.hasForeign = !analysis.isSingle := by
  obtain ⟨hsingle, rfl⟩ | ⟨hsingle, rfl⟩ | ⟨order, hmixed, -, rfl⟩ := layout_cases h
  · simp [hsingle]
  · simp [hsingle]
  · simp [hmixed]

/-- Only a mixed paragraph has lines that can fail. -/
theorem isSingle_of_layout_error {line : Line} {width start : Nat} {analysis : Analysis}
    {glyphs : List (Nat × Char)} {error : ClassifyError}
    (h : line.layout width analysis start glyphs = .error error) : analysis.isSingle = false := by
  by_contra hsingle
  have hsingle : analysis.isSingle = true := by simpa using hsingle
  unfold Line.layout at h
  rw [if_pos hsingle] at h
  cases h

end Line

namespace Frame

variable {frame : Frame} {source : RowSource} {head row : Nat}

theorem isFallback_layoutParagraph (frame : Frame) (source : RowSource) (row : Nat) :
    (frame.layoutParagraph source row).isFallback =
      (frame.prepare source row).verdict.isFallback := by
  unfold layoutParagraph
  dsimp only
  split
  · next hverdict =>
    rw [hverdict]
    rfl
  · next hverdict =>
    rw [hverdict]
    rfl

theorem verdict_of_missing (frame : Frame) (h : source.rowAt row = none) :
    (frame.prepare source row).verdict = .straight .ltr .missing := by
  unfold prepare
  rw [h]

theorem verdict_of_explicit (frame : Frame) {content : Row} (h : source.rowAt row = some content)
    (hexplicit : content.flags.implicit = false) :
    (frame.prepare source row).verdict = .straight content.flags.declared .explicit := by
  have hbase : content.flags.mode.base? = none := by
    unfold DirectionFlags.mode
    rw [hexplicit]
    rfl
  unfold prepare
  rw [h]
  dsimp only
  rw [hbase]

/-- Which paragraphs are analysed does not depend on what their analyses say, nor do the rows that
are read for it. -/
theorem prepare_mapAnalyses (f : Analysis → Analysis) (frame : Frame) (source : RowSource)
    (row : Nat) :
    { frame with classifier := frame.classifier.mapAnalyses f }.prepare source row =
      { frame.prepare source row with
        verdict := (frame.prepare source row).verdict.mapAnalysis f } := by
  unfold prepare Classifier.mapAnalyses
  dsimp only
  cases source.rowAt row with
  | none => rfl
  | some content =>
    dsimp only
    cases content.flags.mode.base? with
    | none => rfl
    | some base =>
      dsimp only
      split
      · rfl
      · split
        · rfl
        · split
          · rfl
          · dsimp only
            cases frame.classifier.analyze _ base <;> rfl

theorem getElem?_layouts_straight {direction : Direction} {cause : StraightCause} {i : Nat}
    {layout : RowLayout}
    (hverdict : (frame.prepare source row).verdict = .straight direction cause)
    (hlayout : (frame.layoutParagraph source row).layouts[i]? = some layout) :
    layout = { direction } := by
  rw [layouts_straight hverdict] at hlayout
  obtain ⟨_, _, rfl⟩ := List.mem_map.1 (List.mem_of_getElem? hlayout)
  rfl

/-- Each ordered line begins at the character at which the lines above end. -/
theorem exists_line_of_orderedLines {lines : List Line} {analysis : Analysis} {i : Nat}
    {result : Except ClassifyError RowLayout}
    (h : (frame.orderedLines lines analysis)[i]? = some result) :
    ∃ line own, lines[i]? = some line ∧ result =
      line.layout frame.width analysis ((lines.take i).flatMap Line.text).length own := by
  have hlt : i < lines.length := by
    have hlt := (List.getElem?_eq_some_iff.1 h).1
    rwa [orderedLines, Line.length_layoutsFrom] at hlt
  obtain ⟨own, hown⟩ := Line.getElem?_layoutsFrom frame.width 0
    (frame.glyphs (lines.flatMap Line.text) analysis) (List.getElem?_eq_getElem hlt)
  obtain rfl := Option.some.inj (h.symm.trans (hown analysis))
  rw [Nat.zero_add]
  exact ⟨lines[i], own, List.getElem?_eq_getElem hlt, rfl⟩

/-- Each row of an analysed paragraph has the layout of its line. -/
theorem exists_line_of_layout {lines : List Line} {analysis : Analysis} {i : Nat}
    {layout : RowLayout} (hverdict : (frame.prepare source row).verdict = .analysed lines analysis)
    (hlayout : (frame.layoutParagraph source row).layouts[i]? = some layout) :
    ∃ line own, lines[i]? = some line ∧ layout = orElseStraight analysis
      (line.layout frame.width analysis ((lines.take i).flatMap Line.text).length own) := by
  rw [layouts_analysed hverdict, List.getElem?_map] at hlayout
  obtain ⟨result, hresult, rfl⟩ := Option.map_eq_some_iff.1 hlayout
  obtain ⟨line, own, hline, rfl⟩ := exists_line_of_orderedLines hresult
  exact ⟨line, own, hline, rfl⟩

/-- The lines of an analysed paragraph are those of its rows. -/
theorem eq_ofRow {lines : List Line} {analysis : Analysis} {i : Nat} {line : Line}
    {content : Row} (hverdict : (frame.prepare source row).verdict = .analysed lines analysis)
    (hline : lines[i]? = some line) (hrow : source.rowAt (row + i) = some content) :
    line = Line.ofRow frame.width content := by
  obtain ⟨-, rfl, -⟩ := analysed_of_prepare hverdict
  rw [List.getElem?_map] at hline
  obtain ⟨other, hother, rfl⟩ := Option.map_eq_some_iff.1 hline
  rw [Chain.rowAt_of_tail hother] at hrow
  rw [Option.some.inj hrow]

/-- A row that its paragraph orders has the layout of the line made of its cells. -/
theorem exists_layout_of_takes {lines : List Line} {analysis : Analysis} {content : Row}
    {layout : RowLayout} (hverdict : (frame.prepare source head).verdict = .analysed lines analysis)
    (hhead : head ≤ row) (hrow : source.rowAt row = some content)
    (hlayout : (frame.layoutParagraph source head).layouts[row - head]? = some layout) :
    lines[row - head]? = some (Line.ofRow frame.width content) ∧
      ∃ own, layout = orElseStraight analysis ((Line.ofRow frame.width content).layout frame.width
        analysis ((lines.take (row - head)).flatMap Line.text).length own) := by
  obtain ⟨line, own, hline, rfl⟩ := exists_line_of_layout hverdict hlayout
  obtain rfl := eq_ofRow hverdict hline (by rwa [Nat.add_sub_cancel' hhead])
  exact ⟨hline, own, rfl⟩

theorem layout_of_mem {layout : RowLayout}
    (h : layout ∈ (frame.layoutParagraph source row).layouts) :
    layout.direction = (frame.prepare source row).verdict.direction ∧
      layout.hasForeign = (frame.prepare source row).verdict.isMixed := by
  obtain ⟨i, hi⟩ := List.mem_iff_getElem?.1 h
  cases hverdict : (frame.prepare source row).verdict with
  | straight direction cause =>
    obtain rfl := getElem?_layouts_straight hverdict hi
    exact ⟨rfl, rfl⟩
  | analysed lines analysis =>
    obtain ⟨line, own, -, rfl⟩ := exists_line_of_layout hverdict hi
    generalize hline : line.layout frame.width analysis _ own = result
    cases result with
    | ok layout => exact Line.layout_ok hline
    | error error =>
      have hsingle := Line.isSingle_of_layout_error hline
      simp [orElseStraight, Verdict.direction, Verdict.isMixed, hsingle]

/-! ## Rows that a paragraph takes -/

/-- The pass has a paragraph that begins at `head` and goes on to `row` at least. -/
structure Takes (frame : Frame) (source : RowSource) (head row : Nat) : Prop where
  first_le : frame.first source ≤ head
  /-- It begins where the pass does, or below the end of another paragraph. -/
  opens : head = frame.first source ∨ source.isWrapped (head - 1) = false ∨
    source.rowAt head = none
  head_le : head ≤ row
  lt_end : row < head + (frame.layoutParagraph source head).layouts.length

/-- From the beginning of a paragraph on, every row above the end of the viewport is taken.  The
passes of two frames whose paragraphs are as long as each other take it by the same one. -/
theorem exists_takes_both {a b : Frame} (hstop : a.stop = b.stop)
    (hlength : ∀ row, (a.layoutParagraph source row).layouts.length =
      (b.layoutParagraph source row).layouts.length)
    {start : Nat} (hfirst : a.first source ≤ start)
    (hopens : start = a.first source ∨ source.isWrapped (start - 1) = false ∨
      source.rowAt start = none)
    (hstart : start ≤ row) (hrow : row < a.stop) :
    ∃ head, a.Takes source head row ∧
      (a.rowLayouts source start)[row - start]? =
        (a.layoutParagraph source head).layouts[row - head]? ∧
      (b.rowLayouts source start)[row - start]? =
        (b.layoutParagraph source head).layouts[row - head]? := by
  induction start using paragraphs_induction a source with
  | next start hlt ih =>
    have hpos := a.length_layouts_pos source hlt
    have hsame := hlength start
    have hlt' : start < b.stop := hstop ▸ hlt
    rw [rowLayouts_of_lt hlt, rowLayouts_of_lt hlt', ← hsame]
    by_cases hown : row < start + (a.layoutParagraph source start).layouts.length
    · refine ⟨start, ⟨hfirst, hopens, hstart, hown⟩, ?_, ?_⟩
      · exact List.getElem?_append_left (by omega)
      · exact List.getElem?_append_left (by omega)
    · have hend := @layouts_end a source start hlt (by omega)
      obtain ⟨head, htakes, hlayout, hlayout'⟩ := ih (by omega) (.inr hend) (by omega)
      refine ⟨head, htakes, ?_, ?_⟩
      · rw [List.getElem?_append_right (by omega), ← hlayout, Nat.sub_sub]
      · rw [List.getElem?_append_right (by omega), ← hlayout', Nat.sub_sub, ← hsame]
  | done start hle => omega

/-- A visible row is taken by a paragraph, and the pass has the layout that the paragraph
has for it. -/
theorem exists_takes (source : RowSource) (hrow : frame.shows row = true) :
    ∃ head, frame.Takes source head row ∧ (frame.pass source).layouts[row - frame.start]? =
      (frame.layoutParagraph source head).layouts[row - head]? := by
  have hvisible := shows_iff.1 hrow
  have hfirst := frame.first_le source
  rw [getElem?_layouts_pass hrow]
  obtain ⟨head, htakes, hlayout, -⟩ := @exists_takes_both source row frame frame rfl (fun _ => rfl)
    _ (Nat.le_refl _) (.inl rfl) (by omega) hvisible.2
  exact ⟨head, htakes, hlayout⟩

theorem Takes.leads (h : frame.Takes source head row) : Chain.Leads source head row := by
  refine ⟨h.head_le, fun above hhead habove => ?_⟩
  have hend := h.lt_end
  have hwrapped := @isWrapped_of_layouts frame source head (above - head) (by omega)
  rwa [Nat.add_sub_cancel' hhead] at hwrapped

/-! ## Rows that are present -/

/-- The chain of `row` begins at `head` when the rows are cut into chains from the first row of
the pass on. -/
structure IsHeadOf (frame : Frame) (source : RowSource) (head row : Nat) : Prop where
  first_le : frame.first source ≤ head
  begins : head = frame.first source ∨ source.isWrapped (head - 1) = false
  leads : Chain.Leads source head row

theorem Takes.isHeadOf (h : frame.Takes source head row)
    (hhead : (source.rowAt head).isSome = true) : frame.IsHeadOf source head row := by
  refine ⟨h.first_le, ?_, h.leads⟩
  rcases h.opens with hfirst | hlast | hmissing
  · exact .inl hfirst
  · exact .inr hlast
  · rw [hmissing] at hhead
    cases hhead

theorem IsHeadOf.unique {head' : Nat} (h : frame.IsHeadOf source head row)
    (h' : frame.IsHeadOf source head' row) : head = head' := by
  -- The lower one of two heads would lie below a soft-wrapped row.
  have hle {a b : Nat} (ha : frame.IsHeadOf source a row) (hb : frame.IsHeadOf source b row) :
      b ≤ a := by
    by_contra hlt
    have hfirst := ha.first_le
    have hbrow := hb.leads.le
    rcases hb.begins with hbegins | hbegins
    · omega
    · rw [ha.leads.isWrapped (b - 1) (by omega) (by omega)] at hbegins
      cases hbegins
  exact Nat.le_antisymm (hle h' h) (hle h h')

/-- The rows that the paragraph at the head of a chain takes have their layouts from it. -/
theorem IsHeadOf.getElem?_layouts (h : frame.IsHeadOf source head row)
    (hshows : frame.shows row = true)
    (hlt : row < head + (frame.layoutParagraph source head).layouts.length) :
    (frame.pass source).layouts[row - frame.start]? =
      (frame.layoutParagraph source head).layouts[row - head]? := by
  have hle := h.leads.le
  have hstop : row < frame.stop := (shows_iff.1 hshows).2
  have hdrop : (frame.rowLayouts source (frame.first source)).drop (head - frame.first source) =
      frame.rowLayouts source head := by
    rcases h.begins with hfirst | hlast
    · rw [← hfirst, Nat.sub_self, List.drop_zero]
    · refine drop_rowLayouts h.first_le fun above habove => ?_
      rwa [← habove] at hlast
  have hfirst := h.first_le
  rw [getElem?_layouts_pass hshows,
    show row - frame.first source = head - frame.first source + (row - head) by omega,
    ← List.getElem?_drop, hdrop, rowLayouts_of_lt (by omega),
    List.getElem?_append_left (by omega)]

/-- A straight paragraph takes the row that its chain leads to. -/
theorem lt_length_of_straight {direction : Direction} {cause : StraightCause}
    (hverdict : (frame.prepare source head).verdict = .straight direction cause)
    (hleads : Chain.Leads source head row) (hrow : row < frame.stop) :
    row < head + (frame.layoutParagraph source head).layouts.length := by
  have hle := hleads.le
  have hwalk : row - head < (Chain.walk source (frame.stop - head) head).length :=
    Chain.lt_length_walk (by omega) fun j hj => hleads.isWrapped _ (by omega) (by omega)
  rw [layouts_straight hverdict, List.length_map]
  omega

/-- Every visible row that the chain of a straight paragraph leads to is straight. -/
theorem IsHeadOf.layout_of_straight (h : frame.IsHeadOf source head row)
    (hshows : frame.shows row = true) {direction : Direction} {cause : StraightCause}
    (hverdict : (frame.prepare source head).verdict = .straight direction cause) :
    (frame.pass source).layouts[row - frame.start]? = some { direction } := by
  have hlt := lt_length_of_straight hverdict h.leads (shows_iff.1 hshows).2
  have hle := h.leads.le
  have hlayout : (frame.layoutParagraph source head).layouts[row - head]? = some
      (frame.layoutParagraph source head).layouts[row - head] :=
    List.getElem?_eq_getElem (by omega)
  rw [h.getElem?_layouts hshows hlt, hlayout, getElem?_layouts_straight hverdict hlayout]

/-- A chain goes on past soft-wrapped rows. -/
theorem IsHeadOf.succ (h : frame.IsHeadOf source head row)
    (hwrapped : source.isWrapped row = true) : frame.IsHeadOf source head (row + 1) :=
  ⟨h.first_le, h.begins, h.leads.succ hwrapped⟩

/-- The paragraph that takes a visible row that is present begins where its chain does. -/
theorem IsHeadOf.takes (h : frame.IsHeadOf source head row) (hshows : frame.shows row = true)
    (hrow : (source.rowAt row).isSome = true) :
    frame.Takes source head row ∧ (frame.pass source).layouts[row - frame.start]? =
      (frame.layoutParagraph source head).layouts[row - head]? := by
  obtain ⟨head', htakes, hlayout⟩ := exists_takes source hshows
  obtain rfl := h.unique (htakes.isHeadOf (htakes.leads.isSome_head hrow))
  exact ⟨htakes, hlayout⟩

/-- The layout of a visible row that is present has the direction of its paragraph. -/
theorem IsHeadOf.exists_layout (h : frame.IsHeadOf source head row)
    (hshows : frame.shows row = true) (hrow : (source.rowAt row).isSome = true) :
    ∃ layout, (frame.pass source).layouts[row - frame.start]? = some layout ∧
      layout.direction = (frame.prepare source head).verdict.direction ∧
      layout.hasForeign = (frame.prepare source head).verdict.isMixed := by
  obtain ⟨-, hsame⟩ := h.takes hshows hrow
  obtain ⟨layout, hlayout⟩ := Frame.exists_layout source hshows
  exact ⟨layout, hlayout, layout_of_mem (List.mem_of_getElem? (hsame.symm.trans hlayout))⟩

end Frame

end BidiViewport
