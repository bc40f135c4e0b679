import BidiViewport.Proofs.Layout.Entries
import BidiViewport.Proofs.Layout.Units
import BidiViewport.Proofs.Shaping.Joins

/-!
# The glyphs of a line

Glyphs are made for a whole paragraph and numbered by its characters.  `Line.Owns` says which of
them a line has, and at which of its columns: those of its own characters, each at the first
column of the character's unit.  A layout pass hands each line the glyphs that it owns
(`Line.exists_owns`), by cutting the list of all of them at the characters at which lines end.

In a row that shows the layout, a visual column has a glyph exactly if it shows a logical column
that has one (`RowLayout.glyph?_eq_some_iff`), which is always the column of a leader
(`Frame.leaderAt_of_mem_glyphs`).
-/

namespace BidiViewport

/-- A list of glyphs is cut at a character into those above it and the others. -/
theorem span_eq_filter {glyphs : List (Nat × Char)} (h : glyphs.Pairwise (·.1 < ·.1))
    (stop : Nat) : glyphs.span (·.1 < stop) =
      (glyphs.filter (·.1 < stop), glyphs.filter (stop ≤ ·.1)) := by
  rw [List.span_eq_takeWhile_dropWhile]
  induction h with
  | nil => rfl
  | @cons glyph rest hlater _ ih =>
    obtain ⟨hbelow, hbehind⟩ := Prod.mk.inj ih
    by_cases hglyph : glyph.1 < stop
    · have hnot : ¬stop ≤ glyph.1 := by omega
      simp [hglyph, hnot, hbelow, hbehind]
    · have hle : stop ≤ glyph.1 := by omega
      have hnone : rest.filter (·.1 < stop) = [] := by
        refine List.filter_eq_nil_iff.2 fun other hother => ?_
        have hlt := hlater other hother
        simp only [decide_eq_true_eq]
        omega
      have hall : rest.filter (stop ≤ ·.1) = rest := by
        refine List.filter_eq_self.2 fun other hother => ?_
        have hlt := hlater other hother
        simp only [decide_eq_true_eq]
        omega
      simp [hglyph, hle, hnone, hall]

namespace Line

variable {line : Line} {start : Nat} {glyphs own : List (Nat × Char)}

theorem getElem?_units (line : Line) (k : Nat) :
    line.units[k]? = line.spans[k]?.map CellSpan.unit := by
  unfold units
  rw [List.getElem?_map, Array.getElem?_toList]

/-- `own` are the glyphs of the line, which begins at the character `start` of its paragraph,
among those of the paragraph: each at the first column of its unit, from left to right. -/
structure Owns (line : Line) (start : Nat) (glyphs own : List (Nat × Char)) : Prop where
  sorted : own.Pairwise (·.1 < ·.1)
  mem_iff : ∀ column glyph, (column, glyph) ∈ own ↔
    ∃ k unit, (start + k, glyph) ∈ glyphs ∧ line.units[k]? = some unit ∧ unit.1 = column

/-- The glyphs of the characters of a line, brought to its columns. -/
theorem owns_columnGlyphs (hunits : line.units.Pairwise (·.1 < ·.1))
    {among : List (Nat × Char)} (hsorted : among.Pairwise (·.1 < ·.1))
    (hamong : ∀ placed, placed ∈ among ↔
      placed ∈ glyphs ∧ start ≤ placed.1 ∧ placed.1 < start + line.spans.size) :
    line.Owns start glyphs (line.columnGlyphs start among) := by
  constructor
  · rw [columnGlyphs, List.pairwise_filterMap]
    refine hsorted.imp_of_mem fun {first second} hfirst hsecond hlt => ?_
    intro placed hplaced later hlater
    obtain ⟨span, hspan, rfl⟩ := Option.map_eq_some_iff.1 hplaced
    obtain ⟨span', hspan', rfl⟩ := Option.map_eq_some_iff.1 hlater
    have hbegins := ((hamong first).1 hfirst).2.1
    have hplace : line.units[first.1 - start]? = some span.unit := by
      rw [getElem?_units, hspan, Option.map_some]
    have hplace' : line.units[second.1 - start]? = some span'.unit := by
      rw [getElem?_units, hspan', Option.map_some]
    obtain ⟨hbound, hunit⟩ := List.getElem?_eq_some_iff.1 hplace
    obtain ⟨hbound', hunit'⟩ := List.getElem?_eq_some_iff.1 hplace'
    have hcolumns := List.pairwise_iff_getElem.1 hunits _ _ hbound hbound' (by omega)
    rwa [hunit, hunit'] at hcolumns
  · intro column glyph
    rw [columnGlyphs, List.mem_filterMap]
    constructor
    · rintro ⟨⟨i, glyph'⟩, hplaced, hcolumn⟩
      obtain ⟨span, hspan, heq⟩ := Option.map_eq_some_iff.1 hcolumn
      obtain ⟨rfl, rfl⟩ := Prod.mk.inj heq
      obtain ⟨hglyph, hbegins, -⟩ := (hamong _).1 hplaced
      refine ⟨i - start, span.unit, ?_, ?_, rfl⟩
      · rwa [Nat.add_sub_cancel' hbegins]
      · rw [getElem?_units, hspan, Option.map_some]
    · rintro ⟨k, unit, hglyph, hunit, rfl⟩
      rw [getElem?_units] at hunit
      obtain ⟨span, hspan, rfl⟩ := Option.map_eq_some_iff.1 hunit
      have hlt := (Array.getElem?_eq_some_iff.1 hspan).1
      refine ⟨(start + k, glyph), (hamong _).2 ⟨hglyph, ?_, ?_⟩, ?_⟩
      · exact Nat.le_add_right start k
      · exact Nat.add_lt_add_left hlt start
      · dsimp only
        rw [Nat.add_sub_cancel_left, hspan]
        rfl

/-- Each line of a paragraph gets the glyphs that it owns. -/
theorem exists_owns (width start : Nat) (analysis : Analysis)
    (hsorted : glyphs.Pairwise (·.1 < ·.1)) (hbegin : ∀ placed ∈ glyphs, start ≤ placed.1)
    {lines : List Line} {i : Nat} (hline : lines[i]? = some line)
    (hunits : line.units.Pairwise (·.1 < ·.1)) :
    let first := start + ((lines.take i).flatMap text).length
    ∃ own, line.Owns first glyphs own ∧
      (layoutsFrom width analysis start glyphs lines)[i]? =
        some (line.layout width analysis first own) := by
  induction lines generalizing start glyphs i with
  | nil => cases hline
  | cons above rest ih =>
    have hcut := span_eq_filter hsorted (start + above.spans.size)
    have hown := congrArg Prod.fst hcut
    have hlater := congrArg Prod.snd hcut
    cases i with
    | zero =>
      obtain rfl : above = line := Option.some.inj hline
      refine ⟨_, owns_columnGlyphs hunits (hsorted.filter (·.1 < start + above.spans.size)) ?_, ?_⟩
      · intro placed
        simp only [List.mem_filter, decide_eq_true_eq, List.take_zero, List.flatMap_nil,
          List.length_nil, Nat.add_zero]
        refine and_congr_right fun hplaced => ?_
        exact (and_iff_right (hbegin placed hplaced)).symm
      · rw [layoutsFrom, List.getElem?_cons_zero, hown]
        rfl
    | succ i =>
      obtain ⟨own, howns, hlayout⟩ := ih (start + above.spans.size)
        (hsorted.filter (start + above.spans.size ≤ ·.1))
        (fun placed hplaced => by simpa using (List.mem_filter.1 hplaced).2) hline
      intro first
      have hfirst : first = start + above.spans.size + ((rest.take i).flatMap text).length := by
        unfold first
        rw [List.take_succ_cons, List.flatMap_cons, List.length_append, length_text, Nat.add_assoc]
      rw [hfirst]
      refine ⟨own, ⟨howns.sorted, fun column glyph => ?_⟩, ?_⟩
      · rw [howns.mem_iff]
        -- No glyph of the line is cut off with those of the lines above.
        have hkept (k : Nat) : (start + above.spans.size + ((rest.take i).flatMap text).length + k,
            glyph) ∈ glyphs.filter (start + above.spans.size ≤ ·.1) ↔
            (start + above.spans.size + ((rest.take i).flatMap text).length + k, glyph) ∈
              glyphs := by
          rw [List.mem_filter]
          refine and_iff_left (decide_eq_true ?_)
          omega
        simp only [hkept]
      · rw [layoutsFrom, List.getElem?_cons_succ, hlater]
        exact hlayout

/-- A laid out line holds the glyphs that it was given. -/
theorem glyphs_layout {width : Nat} {analysis : Analysis} {layout : RowLayout}
    (h : line.layout width analysis start own = .ok layout) : layout.glyphs = own := by
  unfold Line.layout at h
  by_cases hsingle : analysis.isSingle = true
  · rw [if_pos hsingle] at h
    obtain rfl := Except.ok.inj h
    cases own <;> rfl
  · rw [if_neg hsingle] at h
    cases horder : analysis.reorder start (start + line.spans.size) with
    | error error =>
      rw [horder] at h
      cases h
    | ok order =>
      rw [horder] at h
      obtain rfl := Except.ok.inj h
      rfl

/-- A line is laid out if its paragraph is on one level or has an order for the line. -/
theorem exists_layout_iff (width : Nat) (analysis : Analysis) (own : List (Nat × Char)) :
    (∃ layout, line.layout width analysis start own = .ok layout) ↔ analysis.isSingle = true ∨
      ∃ order, analysis.reorder start (start + line.spans.size) = .ok order := by
  unfold Line.layout
  by_cases hsingle : analysis.isSingle = true
  · rw [if_pos hsingle]
    exact iff_of_true ⟨_, rfl⟩ (.inl hsingle)
  · rw [if_neg hsingle]
    cases horder : analysis.reorder start (start + line.spans.size) with
    | error error =>
      refine iff_of_false ?_ ?_
      · rintro ⟨layout, h⟩
        cases h
      · rintro (hone | ⟨order, h⟩)
        · exact hsingle hone
        · cases h
    | ok order => exact iff_of_true ⟨_, rfl⟩ (.inr ⟨order, rfl⟩)

end Line

namespace RowLayout

variable {layout : RowLayout} {width : Nat}

/-- With one glyph at most for each column, each is the one of its column. -/
theorem glyphFor?_eq_some_iff (hsorted : layout.glyphs.Pairwise (·.1 < ·.1)) {column : Nat}
    {glyph : Char} : layout.glyphFor? column = some glyph ↔ (column, glyph) ∈ layout.glyphs := by
  refine ⟨glyphFor?_mem, fun hmem => ?_⟩
  unfold glyphFor?
  unfold glyphs at hmem hsorted
  cases harrangement : layout.arrangement with
  | straight =>
    rw [harrangement] at hmem
    cases hmem
  | ordered columns glyphs =>
    rw [harrangement] at hmem hsorted
    obtain ⟨later, earlier, hsplit⟩ := List.append_of_mem (List.mem_reverse.2 hmem)
    refine List.lookup_eq_some_iff.2 ⟨later, earlier, hsplit, fun other hother => ?_⟩
    have hreverse := List.pairwise_reverse.2 hsorted
    rw [hsplit, List.pairwise_append] at hreverse
    have hlt : column < other.1 := hreverse.2.2 other hother _ List.mem_cons_self
    simp [Nat.ne_of_lt hlt]

/-- A glyph is that of the logical column that the visual one shows. -/
theorem exists_mem_glyphs_of_glyph? {visual : Int} {glyph : Char}
    (h : layout.glyph? width visual = some glyph) :
    ∃ column : Nat, (column, glyph) ∈ layout.glyphs ∧
      layout.toLogical width visual = column := by
  obtain ⟨entry, hentry, hglyph⟩ := Option.bind_eq_some_iff.1 h
  exact ⟨entry.1, glyphFor?_mem hglyph, toLogical_of_shown hentry⟩

theorem glyph?_of_glyphs_eq_nil (h : layout.glyphs = []) (visual : Int) :
    layout.glyph? width visual = none := by
  refine Option.eq_none_iff_forall_ne_some.2 fun glyph hglyph => ?_
  obtain ⟨column, hmem, -⟩ := exists_mem_glyphs_of_glyph? hglyph
  rw [h] at hmem
  cases hmem

/-- A visual column has the glyph of the logical column that it shows. -/
theorem glyph?_eq_some_iff (hbijection : layout.IsBijection width)
    (hsorted : layout.glyphs.Pairwise (·.1 < ·.1))
    (hinside : ∀ placed ∈ layout.glyphs, placed.1 < width) {visual : Int} {glyph : Char} :
    layout.glyph? width visual = some glyph ↔
      ∃ column : Nat, (column, glyph) ∈ layout.glyphs ∧ layout.toLogical width visual = column := by
  refine ⟨exists_mem_glyphs_of_glyph?, ?_⟩
  rintro ⟨column, hmem, hcolumn⟩
  have hlt : column < width := hinside _ hmem
  unfold glyph?
  cases hshown : layout.shown? width visual with
  | none =>
    -- Only an ordered row has glyphs, and its columns have entries.
    rcases straight_or_outside_of_shown_none hbijection hshown with hstraight | houtside
    · unfold glyphs at hmem
      rw [hstraight] at hmem
      cases hmem
    · rw [toLogical_of_shown_none hshown] at hcolumn
      have hstill : ¬(0 ≤ straightColumn width layout.direction visual ∧
          straightColumn width layout.direction visual < width) := straightColumn_outside houtside
      omega
  | some entry =>
    rw [toLogical_of_shown hshown] at hcolumn
    obtain rfl : entry.1 = column := by omega
    exact (glyphFor?_eq_some_iff hsorted).2 hmem

end RowLayout

/-! ## Glyphs and cells -/

/-- A glyph is that of a letter of the text. -/
theorem Shaping.exists_letter_of_mem_shape {text : LeveledText} {i : Nat} {glyph : Char}
    (h : (i, glyph) ∈ shape text) :
    ∃ c level, text[i]? = some (c, level) ∧ (Forms.of? c).isSome = true := by
  obtain ⟨front, c, level, rest, rfl, hplaced⟩ := mem_shapeFrom.1 h
  obtain ⟨forms, hforms, hentry⟩ := mem_placed.1 hplaced
  obtain ⟨hi, -⟩ := Prod.mk.inj hentry
  refine ⟨c, level, ?_, by rw [hforms]; rfl⟩
  rw [← hi, Nat.zero_add, List.getElem?_append_right (Nat.le_refl _), Nat.sub_self]
  rfl

/-- The characters of a line come behind those of the lines above. -/
theorem Line.getElem?_text {lines : List Line} {line : Line} {i k : Nat} {span : CellSpan}
    (hline : lines[i]? = some line) (hspan : line.spans[k]? = some span) :
    (lines.flatMap text)[((lines.take i).flatMap text).length + k]? = some span.char := by
  obtain ⟨hlt, rfl⟩ := List.getElem?_eq_some_iff.1 hline
  have hk := (Array.getElem?_eq_some_iff.1 hspan).1
  have hsplit := congrArg (List.flatMap text) (List.take_append_drop i lines)
  rw [List.drop_eq_getElem_cons hlt, List.flatMap_append, List.flatMap_cons] at hsplit
  rw [← hsplit, List.getElem?_append_right (by omega), Nat.add_sub_cancel_left,
    List.getElem?_append_left (by rwa [length_text])]
  unfold text
  rw [List.getElem?_map, Array.getElem?_toList, hspan, Option.map_some]

/-- Only a fragment without a leader has a character of its own that is not in its cell. -/
theorem CellSpan.leaderAt_column {cells : List Cell} {span : CellSpan} (h : span ∈ ofCells cells)
    (hchar : span.char ≠ ' ') : Cell.leaderAt cells span.column = true := by
  rcases List.mem_append.1 h with horphan | hled
  · obtain ⟨column, -, rfl⟩ := List.mem_map.1 horphan
    exact absurd rfl hchar
  · obtain ⟨i, base, marks, columns, hcell, rfl⟩ := mem_leadersFrom.1 hled
    dsimp only
    rw [Nat.zero_add]
    exact Cell.leaderAt_iff.2 ⟨base, marks, columns, hcell⟩

namespace Frame

variable {frame : Frame} {source : RowSource} {head row : Nat} {content : Row}
  {lines : List Line} {analysis : Analysis} {layout : RowLayout}

theorem mem_glyphs_iff {text : List Char} {placed : Nat × Char} :
    placed ∈ frame.glyphs text analysis ↔ frame.shaping = true ∧
      (∃ level ∈ analysis.levels, level % 2 = 1) ∧
        placed ∈ shape (text.zip analysis.levels.toList) := by
  unfold glyphs
  dsimp only
  by_cases hshaped : (frame.shaping && analysis.levels.toList.any (· % 2 = 1)) = true
  · rw [if_pos hshaped]
    simp only [Bool.and_eq_true, List.any_eq_true, Array.mem_toList_iff,
      decide_eq_true_eq] at hshaped
    rw [and_iff_right hshaped.1, and_iff_right hshaped.2]
  · rw [if_neg hshaped]
    simp only [Bool.and_eq_true, List.any_eq_true, Array.mem_toList_iff,
      decide_eq_true_eq] at hshaped
    refine iff_of_false (by simp) fun h => hshaped ⟨h.1, h.2.1⟩

theorem sorted_glyphs (frame : Frame) (text : List Char) (analysis : Analysis) :
    (frame.glyphs text analysis).Pairwise (·.1 < ·.1) := by
  unfold glyphs
  dsimp only
  split
  · exact Shaping.pairwise_shapeFrom _ _ _
  · exact .nil

/-- A row of an analysed paragraph is laid out with the glyphs that it owns. -/
theorem exists_owns_of_layout
    (hverdict : (frame.prepare source head).verdict = .analysed lines analysis)
    (hhead : head ≤ row) (hrow : source.rowAt row = some content)
    (hlayout : (frame.layoutParagraph source head).layouts[row - head]? = some layout) :
    let line := Line.ofRow frame.width content
    let start := ((lines.take (row - head)).flatMap Line.text).length
    lines[row - head]? = some line ∧ ∃ own,
      line.Owns start (frame.glyphs (lines.flatMap Line.text) analysis) own ∧
        layout = orElseStraight analysis (line.layout frame.width analysis start own) := by
  intro line start
  obtain ⟨hline, -⟩ := exists_layout_of_takes hverdict hhead hrow hlayout
  refine ⟨hline, ?_⟩
  obtain ⟨own, howns, hown⟩ := Line.exists_owns frame.width 0 analysis
    (frame.sorted_glyphs (lines.flatMap Line.text) analysis) (fun _ _ => Nat.zero_le _) hline
    (Line.listsUnits_ofRow frame.width content).sorted
  rw [Nat.zero_add] at howns hown
  rw [layouts_analysed hverdict, List.getElem?_map, orderedLines, hown] at hlayout
  exact ⟨own, howns, (Option.some.inj hlayout).symm⟩

/-- Glyphs are drawn at the columns of leaders: a fragment without one stands for a space. -/
theorem leaderAt_of_mem_glyphs (hhead : head ≤ row) (hrow : source.rowAt row = some content)
    (hlayout : (frame.layoutParagraph source head).layouts[row - head]? = some layout)
    {placed : Nat × Char} (hplaced : placed ∈ layout.glyphs) :
    Cell.leaderAt (content.cells.toList.take frame.width) placed.1 = true := by
  cases hverdict : (frame.prepare source head).verdict with
  | straight direction cause =>
    obtain rfl := getElem?_layouts_straight hverdict hlayout
    cases hplaced
  | analysed lines analysis =>
    obtain ⟨hline, own, howns, rfl⟩ := exists_owns_of_layout hverdict hhead hrow hlayout
    generalize hresult : (Line.ofRow frame.width content).layout frame.width analysis _ own = result
      at hplaced
    cases result with
    | error error => cases hplaced
    | ok layout =>
      have hmem : placed ∈ own := Line.glyphs_layout hresult ▸ hplaced
      obtain ⟨k, unit, hglyph, hunit, hcolumn⟩ := (howns.mem_iff placed.1 placed.2).1 hmem
      rw [Line.getElem?_units] at hunit
      obtain ⟨span, hspan, rfl⟩ := Option.map_eq_some_iff.1 hunit
      obtain ⟨c, level, hletter, hforms⟩ :=
        Shaping.exists_letter_of_mem_shape (mem_glyphs_iff.1 hglyph).2.2
      obtain ⟨hchar, -⟩ := List.getElem?_zip_eq_some.1 hletter
      rw [Line.getElem?_text hline hspan] at hchar
      obtain rfl := Option.some.inj hchar
      rw [← hcolumn]
      refine CellSpan.leaderAt_column ?_ ?_
      · exact Array.mem_toList_iff.2 (Array.mem_of_getElem? hspan)
      · intro hspace
        rw [hspace] at hforms
        cases hforms

end Frame

end BidiViewport
