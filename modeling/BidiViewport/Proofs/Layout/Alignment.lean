import BidiViewport.Proofs.Layout.Entries
import BidiViewport.Proofs.Layout.SingleDirection
import BidiViewport.Proofs.Layout.Units

/-!
# Text and padding

A row that is not filled has its text on the side where its direction begins, and padding on the
other side.  `RowLayout.RestsBeyond` says what a layout does with the columns that have no cells:
they are at their own places, as in a row without any text.  Straight rows, rows that are spelt
out for their glyphs and ordered rows come by it in three ways (`Line.restsBeyond_layout`).

That the text is where it belongs needs no second argument: the columns behind it are all taken
(`RowLayout.RestsBeyond.toVisual_mem_text`).
-/

namespace BidiViewport

namespace RowLayout

variable {layout : RowLayout} {used width : Nat} {column : Int}

/-- The visual columns in which `used` columns of text stand. -/
def IsTextColumn (used width : Nat) (direction : Direction) (visual : Int) : Prop :=
  (direction.textStart used width : Int) ≤ visual ∧
    visual < (direction.textStart used width : Int) + used

/-- A straight row has its text in the columns of the text. -/
theorem isTextColumn_straightColumn (direction : Direction) (h : used ≤ width) :
    IsTextColumn used width direction (straightColumn width direction column) ↔
      0 ≤ column ∧ column < used := by
  cases direction with
  | ltr =>
    simp only [IsTextColumn, straightColumn, Direction.textStart]
    omega
  | rtl =>
    simp only [IsTextColumn, straightColumn, Direction.textStart]
    omega

/-- The columns that have no cells are at their own places in the direction of the row, and no
glyph is for them. -/
structure RestsBeyond (layout : RowLayout) (used width : Nat) : Prop where
  toVisual : ∀ column : Int, ¬(0 ≤ column ∧ column < used) →
    layout.toVisual width column = straightColumn width layout.direction column
  visualDirection : ∀ column : Int, ¬(0 ≤ column ∧ column < used) →
    layout.visualDirection width (straightColumn width layout.direction column) = layout.direction
  glyphs_lt : ∀ placed ∈ layout.glyphs, placed.1 < used

namespace RestsBeyond

/-- Only columns of the text are drawn where the text stands, and they are drawn nowhere else. -/
theorem toVisual_mem_text (h : layout.RestsBeyond used width) (hbijection : layout.IsBijection width)
    (hle : used ≤ width) (column : Int) :
    IsTextColumn used width layout.direction (layout.toVisual width column) ↔
      0 ≤ column ∧ column < used := by
  constructor
  · intro htext
    by_contra hbeyond
    rw [h.toVisual column hbeyond] at htext
    exact hbeyond ((isTextColumn_straightColumn _ hle).1 htext)
  · intro hcontent
    by_contra hbeyond
    -- Otherwise the place of the column would be that of a column which has no cell.
    have hrests : ¬(0 ≤ straightColumn width layout.direction (layout.toVisual width column) ∧
        straightColumn width layout.direction (layout.toVisual width column) < used) := by
      rw [← isTextColumn_straightColumn layout.direction hle, straightColumn_straightColumn]
      exact hbeyond
    have hplace := h.toVisual _ hrests
    rw [straightColumn_straightColumn] at hplace
    have hsame := congrArg (layout.toLogical width) hplace
    rw [toLogical_toVisual hbijection, toLogical_toVisual hbijection] at hsame
    rw [hsame] at hrests
    exact hrests hcontent

theorem glyph?_eq_none (h : layout.RestsBeyond used width) (hbijection : layout.IsBijection width)
    (hbeyond : ¬(0 ≤ column ∧ column < used)) :
    layout.glyph? width (straightColumn width layout.direction column) = none := by
  have hlogical := toLogical_toVisual hbijection column
  rw [h.toVisual column hbeyond] at hlogical
  unfold RowLayout.glyph?
  cases hshown : layout.shown? width (straightColumn width layout.direction column) with
  | none => rfl
  | some entry =>
    rw [toLogical_of_shown hshown] at hlogical
    cases hglyph : layout.glyphFor? entry.1 with
    | none => exact hglyph
    | some glyph =>
      have hlt := h.glyphs_lt _ (glyphFor?_mem hglyph)
      dsimp only at hlt
      omega

end RestsBeyond

theorem IsPlain.restsBeyond (h : layout.IsPlain width)
    (hglyphs : ∀ placed ∈ layout.glyphs, placed.1 < used) : layout.RestsBeyond used width where
  toVisual column _ := h.toVisual_eq column
  visualDirection _ _ := h.visualDirection_eq _
  glyphs_lt := hglyphs

end RowLayout

namespace Line

variable {row : Row} {order : LineOrder} {width : Nat} {direction : Direction}

/-! ## Padding of an ordered line -/

/-- In an order that passes the check of the map, each column without a cell has an entry of the
line's direction at its own place: on the left if the text runs to the left, behind the content
otherwise. -/
theorem exists_entry_of_padding
    (hperm : (((ofRow width row).columns width direction order).map Prod.fst).Perm
      (List.range width)) {column : Nat} (hused : (ofRow width row).used ≤ column)
    (hlt : column < width) :
    ∃ visual : Nat, RowLayout.straightColumn width direction column = visual ∧
      ((ofRow width row).columns width direction order)[visual]? = some (column, direction) := by
  cases direction with
  | ltr =>
    refine ⟨column, rfl, ?_⟩
    obtain ⟨⟨first, drawn⟩, hmem, rfl⟩ :=
      List.mem_map.1 (hperm.mem_iff.2 (List.mem_range.2 hlt))
    rcases List.mem_append.1 hmem with hcontent | hright
    · have hcontent := fst_lt_used_of_mem_content hcontent
      exact absurd hcontent (Nat.not_lt.2 hused)
    · obtain ⟨visual, hvisual, hentry⟩ := List.mem_map.1 hright
      cases hentry
      exact getElem?_columns_behind (List.mem_range'_1.1 hvisual).1 hlt
  | rtl =>
    have hpadding : width - 1 - column < ((ofRow width row).leftPadding width .rtl).length := by
      rw [length_leftPadding, Direction.textStart]
      omega
    refine ⟨width - 1 - column, ?_, ?_⟩
    · simp only [RowLayout.straightColumn]
      omega
    · have hrange : width - 1 - column < width - (ofRow width row).used := by omega
      unfold columns
      dsimp only
      rw [List.append_assoc, List.getElem?_append_left hpadding, leftPadding, List.getElem?_map,
        List.getElem?_range hrange, Option.map_some,
        show width - 1 - (width - 1 - column) = column by omega]

theorem restsBeyond_ordered {layout : RowLayout} {glyphs : List (Nat × Char)}
    (harrangement : layout.arrangement =
      .ordered ((ofRow width row).columns width layout.direction order) glyphs)
    (hbijection : layout.IsBijection width)
    (hglyphs : ∀ placed ∈ layout.glyphs, placed.1 < (ofRow width row).used) :
    layout.RestsBeyond (ofRow width row).used width := by
  have hperm := RowLayout.perm_of_isBijection harrangement hbijection
  have hpadding {column : Nat} (hused : (ofRow width row).used ≤ column) (hlt : column < width) :
      layout.toVisual width column = RowLayout.straightColumn width layout.direction column ∧
        layout.visualDirection width (RowLayout.straightColumn width layout.direction column) =
          layout.direction := by
    obtain ⟨visual, hvisual, hentry⟩ := exists_entry_of_padding hperm hused hlt
    obtain ⟨-, hdirection, hplace⟩ :=
      RowLayout.answers_of_getElem? harrangement hbijection hentry
    rw [hvisual]
    exact ⟨hplace, hdirection⟩
  refine ⟨?_, ?_, hglyphs⟩
  · intro column hbeyond
    by_cases hin : 0 ≤ column ∧ column < width
    · obtain ⟨column, rfl⟩ := Int.eq_ofNat_of_zero_le hin.1
      exact (hpadding (by omega) (by omega)).1
    · exact RowLayout.toVisual_outside hin
  · intro column hbeyond
    by_cases hin : 0 ≤ column ∧ column < width
    · obtain ⟨column, rfl⟩ := Int.eq_ofNat_of_zero_le hin.1
      exact (hpadding (by omega) (by omega)).2
    · unfold RowLayout.visualDirection
      rw [RowLayout.shown?_outside (RowLayout.straightColumn_outside hin)]

/-! ## Glyphs of a line -/

/-- The characters of a row begin at columns that have cells. -/
theorem column_lt_used {span : CellSpan} (h : span ∈ (ofRow width row).spans) :
    span.column < (ofRow width row).used := by
  have hunit : Cell.IsUnit (row.cells.toList.take width) span.column span.columns :=
    CellSpan.mem_units_iff.1 (List.mem_map_of_mem (Array.mem_toList_iff.2 h))
  have hpos : 0 < span.columns := hunit.count_pos
  have hlt := hunit.lt_length (Nat.le_refl _) (Nat.lt_add_of_pos_right hpos)
  rw [List.length_take, Nat.min_comm] at hlt
  exact hlt

/-- A line has glyphs for its own characters only. -/
theorem exists_span_of_mem_glyphs {start i : Nat} {analysis : Analysis}
    {glyphs : List (Nat × Char)} {lines : List Line} {line : Line} {layout : RowLayout}
    (hline : lines[i]? = some line)
    (h : (layoutsFrom width analysis start glyphs lines)[i]? = some (.ok layout)) :
    ∀ placed ∈ layout.glyphs, ∃ span ∈ line.spans, placed.1 = span.column := by
  induction lines generalizing start glyphs i with
  | nil => cases hline
  | cons first rest ih =>
    rw [layoutsFrom] at h
    cases i with
    | succ i => exact ih hline h
    | zero =>
      obtain rfl : first = line := Option.some.inj hline
      intro placed hplaced
      have hcolumn : ∃ own, placed ∈ first.columnGlyphs start own := by
        obtain ⟨-, rfl⟩ | ⟨-, rfl⟩ | ⟨order, -, -, rfl⟩ := layout_cases (Option.some.inj h)
        · cases hplaced
        · exact ⟨_, hplaced⟩
        · exact ⟨_, hplaced⟩
      obtain ⟨own, hown⟩ := hcolumn
      obtain ⟨⟨index, glyph⟩, -, hspan⟩ := List.mem_filterMap.1 hown
      obtain ⟨span, hfound, rfl⟩ := Option.map_eq_some_iff.1 hspan
      exact ⟨span, Array.mem_of_getElem? hfound, rfl⟩

/-! ## Every line -/

/-- However a line is laid out, the columns without cells are at rest. -/
theorem restsBeyond_layout {start : Nat} {analysis : Analysis} {glyphs : List (Nat × Char)}
    {layout : RowLayout}
    (h : (ofRow width row).layout width analysis start glyphs = .ok layout)
    (hbijection : layout.IsBijection width)
    (hglyphs : ∀ placed ∈ layout.glyphs, placed.1 < (ofRow width row).used) :
    layout.RestsBeyond (ofRow width row).used width := by
  obtain ⟨-, rfl⟩ | ⟨-, rfl⟩ | ⟨order, -, -, rfl⟩ := layout_cases h
  · exact RowLayout.IsPlain.restsBeyond (.inl rfl) hglyphs
  · exact RowLayout.IsPlain.restsBeyond (.inr ⟨glyphs, rfl⟩) hglyphs
  · exact restsBeyond_ordered rfl hbijection hglyphs

end Line

namespace Frame

variable {frame : Frame} {source : RowSource} {head row : Nat} {content : Row}

/-- Whatever becomes of the paragraph of a row, the columns of the row without cells are at
rest. -/
theorem restsBeyond_of_layout {layout : RowLayout} (hhead : head ≤ row)
    (hrow : source.rowAt row = some content)
    (hlayout : (frame.layoutParagraph source head).layouts[row - head]? = some layout)
    (hbijection : layout.IsBijection frame.width) :
    layout.RestsBeyond (min content.size frame.width) frame.width := by
  have hstraight (direction : Direction) (hasForeign : Bool) : RowLayout.RestsBeyond
      { direction, hasForeign } (min content.size frame.width) frame.width := by
    refine RowLayout.IsPlain.restsBeyond (.inl rfl) ?_
    intro placed hplaced
    cases hplaced
  cases hverdict : (frame.prepare source head).verdict with
  | straight direction cause =>
    obtain rfl := getElem?_layouts_straight hverdict hlayout
    exact hstraight _ _
  | analysed lines analysis =>
    obtain ⟨hline, -⟩ := exists_layout_of_takes hverdict hhead hrow hlayout
    rw [layouts_analysed hverdict, List.getElem?_map] at hlayout
    obtain ⟨result, hresult, rfl⟩ := Option.map_eq_some_iff.1 hlayout
    cases result with
    | error error => exact hstraight _ _
    | ok layout =>
      obtain ⟨line, own, hline', hlayout⟩ := exists_line_of_orderedLines hresult
      obtain rfl := Option.some.inj (hline.symm.trans hline')
      refine Line.restsBeyond_layout hlayout.symm hbijection ?_
      intro placed hplaced
      obtain ⟨span, hspan, hcolumn⟩ := Line.exists_span_of_mem_glyphs hline hresult placed hplaced
      rw [hcolumn]
      exact Line.column_lt_used hspan

end Frame

end BidiViewport
