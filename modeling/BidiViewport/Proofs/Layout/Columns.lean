import Mathlib.Data.List.Perm.Basic
import BidiViewport.Layout.Paragraph

/-!
# The columns of a row layout

* The characters of a row partition its used columns: in order, their columns are the
  first `used` columns, each once (`CellSpan.flatMap_extent_ofCells`).
* A line keeps this in every visual order that a classifier may give: the columns of a
  line are the columns of its row, each drawn once (`Line.columns_perm`).
* `RowLayout.IsBijection` is the check that a row map makes of an order before it is
  used.  It holds for every line of an analysed paragraph when the classifier keeps its
  promise (`Line.layoutsFrom_isBijection`).
-/

namespace BidiViewport

/-! ## Characters and their columns -/

namespace CellSpan

/-- The columns that a character fills, from its first on. -/
def extent (span : CellSpan) : List Nat :=
  List.range' span.column span.columns

theorem drawn_fst_perm (span : CellSpan) (direction : Direction) :
    ((span.drawn direction).map Prod.fst).Perm span.extent := by
  have hfst : (span.extent.map (·, direction)).map Prod.fst = span.extent := by
    rw [List.map_map]
    exact List.map_id _
  cases direction with
  | ltr => exact .of_eq hfst
  | rtl =>
    simp only [drawn, List.map_reverse]
    exact (List.reverse_perm _).trans (.of_eq hfst)

theorem fragmentRun_le (cells : List Cell) : fragmentRun cells ≤ cells.length :=
  (List.takeWhile_sublist _).length_le

/-- The leaders and their fragments fill the columns behind the fragments that the
cells begin with. -/
theorem flatMap_extent_leadersFrom (column : Nat) (cells : List Cell) :
    (leadersFrom column cells).flatMap extent =
      List.range' (column + fragmentRun cells) (cells.length - fragmentRun cells) := by
  induction cells generalizing column with
  | nil => rfl
  | cons cell rest ih =>
    cases cell with
    | leader base marks columns =>
      have hle := fragmentRun_le rest
      rw [leadersFrom, List.flatMap_cons, ih, extent, fragmentRun_leader, List.length_cons,
        show column + 1 + fragmentRun rest = column + (fragmentRun rest + 1) by omega,
        List.range'_append_1, Nat.add_zero, Nat.sub_zero,
        show fragmentRun rest + 1 + (rest.length - fragmentRun rest) = rest.length + 1 by omega]
      rfl
    | fragment columns =>
      rw [leadersFrom, ih, fragmentRun_fragment, List.length_cons,
        show column + 1 + fragmentRun rest = column + (fragmentRun rest + 1) by omega,
        Nat.add_sub_add_right]

/-- The characters of a row partition its columns. -/
theorem flatMap_extent_ofCells (cells : List Cell) :
    (ofCells cells).flatMap extent = List.range cells.length := by
  have horphans : ((List.range (fragmentRun cells)).map (⟨' ', ·, 1⟩)).flatMap extent =
      List.range' 0 (fragmentRun cells) := by
    rw [List.flatMap_map, ← List.range_eq_range']
    exact List.flatMap_singleton' _
  rw [ofCells, List.flatMap_append, horphans, flatMap_extent_leadersFrom,
    List.range'_append_1, Nat.add_sub_cancel' (fragmentRun_le cells), ← List.range_eq_range']

end CellSpan

/-! ## The columns of a line -/

namespace RowLayout

/-- Every column of the row is drawn once.  A row map checks this of an order when it
derives the visual columns from the logical ones. -/
def IsBijection (layout : RowLayout) (width : Nat) : Prop :=
  match layout.arrangement with
  | .straight => True
  | .ordered columns _ => (columns.map Prod.fst).Perm (List.range width)

theorem isBijection_straight (direction : Direction) (hasForeign : Bool) (width : Nat) :
    IsBijection { direction, hasForeign } width := trivial

/-- The columns before `width`, from the last one down to `width - count`. -/
theorem countdown_perm {count width : Nat} (h : count ≤ width) :
    ((List.range count).map fun visual => width - 1 - visual).Perm
      (List.range' (width - count) count) := by
  have hreverse : (List.range' (width - count) count).reverse =
      (List.range count).map fun visual => width - 1 - visual := by
    rw [List.reverse_range', Nat.sub_add_cancel h]
  rw [← hreverse]
  exact List.reverse_perm _

theorem straightColumns_perm (width : Nat) (direction : Direction) :
    ((straightColumns width direction).map Prod.fst).Perm (List.range width) := by
  unfold straightColumns
  rw [List.map_map]
  cases direction with
  | ltr => exact .of_eq (List.map_id _)
  | rtl =>
    have hdown := countdown_perm (Nat.le_refl width)
    rw [Nat.sub_self, ← List.range_eq_range'] at hdown
    exact hdown

end RowLayout

namespace Line

theorem flatMap_extent_ofRow (width : Nat) (row : Row) :
    (ofRow width row).spans.toList.flatMap CellSpan.extent =
      List.range (ofRow width row).used := by
  have hlength : (row.cells.toList.take width).length = min row.size width := by
    rw [List.length_take, Array.length_toList, Nat.min_comm]
    rfl
  have hspans := CellSpan.flatMap_extent_ofCells (row.cells.toList.take width)
  rw [hlength] at hspans
  exact hspans

theorem used_ofRow_le (width : Nat) (row : Row) : (ofRow width row).used ≤ width :=
  Nat.min_le_right _ _

/-- Reading an array at all its indices in order reads its entries in order. -/
theorem flatMap_range_getElem? {α β : Type} (xs : Array α) (f : α → List β) :
    ((List.range xs.size).flatMap fun i =>
      match xs[i]? with
      | some x => f x
      | none => []) = xs.toList.flatMap f := by
  have hread : (List.range xs.size).map (xs[·]?) = xs.toList.map some := by
    apply List.ext_getElem
    · simp
    · intro i hi _
      simp only [List.length_map, List.length_range] at hi
      simp [hi]
  have hmap := congrArg (List.flatMap fun x : Option α =>
    match x with
    | some x => f x
    | none => []) hread
  rwa [List.flatMap_map, List.flatMap_map] at hmap

/-- In whatever visual order, the characters of a line fill its used columns. -/
theorem content_perm {width : Nat} {row : Row} {order : LineOrder}
    (horder : order.visual.toList.Perm (List.range (ofRow width row).spans.size)) :
    (((ofRow width row).content order).map Prod.fst).Perm
      (List.range (ofRow width row).used) := by
  rw [← flatMap_extent_ofRow, ← flatMap_range_getElem?, content, List.map_flatMap]
  refine (List.Perm.flatMap_left _ fun i _ => ?_).trans (horder.flatMap_right _)
  cases (ofRow width row).spans[i]? with
  | none => exact .refl _
  | some span => exact span.drawn_fst_perm _

theorem leftPadding_rtl_perm {line : Line} {width : Nat} (h : line.used ≤ width) :
    ((line.leftPadding width .rtl).map Prod.fst).Perm
      (List.range' line.used (width - line.used)) := by
  have hdown := RowLayout.countdown_perm (Nat.sub_le width line.used)
  rw [Nat.sub_sub_self h] at hdown
  rw [leftPadding, List.map_map]
  exact hdown

/-- The used columns and the others. -/
theorem range_eq_append {used width : Nat} (h : used ≤ width) :
    List.range width = List.range used ++ List.range' used (width - used) := by
  have happend := List.range'_append_1 (s := 0) (m := used) (n := width - used)
  rw [Nat.zero_add, Nat.add_sub_cancel' h] at happend
  rw [List.range_eq_range', List.range_eq_range', happend]

/-- The columns of a line are the columns of its row, whatever the order of its
characters: its content fills the used columns, and its padding the others. -/
theorem columns_perm {width : Nat} {row : Row} {order : LineOrder} (direction : Direction)
    (horder : order.visual.toList.Perm (List.range (ofRow width row).spans.size)) :
    (((ofRow width row).columns width direction order).map Prod.fst).Perm
      (List.range width) := by
  have hle := used_ofRow_le width row
  have hcontent := content_perm horder
  generalize ofRow width row = line at hle hcontent
  have hsize : (line.content order).length = line.used := by
    have := hcontent.length_eq
    simpa using this
  rw [range_eq_append hle]
  cases direction with
  | ltr =>
    have hright : (line.columns width .ltr order).map Prod.fst =
        (line.content order).map Prod.fst ++ List.range' line.used (width - line.used) := by
      simp [columns, leftPadding, hsize, Function.comp_def]
    rw [hright]
    exact hcontent.append_right _
  | rtl =>
    have hfull : width - (width - line.used + line.used) = 0 := by omega
    have hleft : (line.columns width .rtl order).map Prod.fst =
        (line.leftPadding width .rtl).map Prod.fst ++ (line.content order).map Prod.fst := by
      simp [columns, leftPadding, hsize, hfull]
    rw [hleft]
    exact ((leftPadding_rtl_perm hle).append hcontent).trans List.perm_append_comm

/-! ## Lines of an analysed paragraph -/

theorem perm_of_reorder {analysis : Analysis} {start count length : Nat} {order : LineOrder}
    (hwf : analysis.WellFormed length) (hstop : start + count ≤ length)
    (horder : analysis.reorder start (start + count) = .ok order) :
    order.visual.toList.Perm (List.range count) := by
  have hperm := (hwf.visual_perm (Nat.le_add_right start count) hstop horder).1
  rwa [Nat.add_sub_cancel_left] at hperm

/-- What the layout of a line can be: straight, straight and spelt out, or ordered. -/
theorem layout_cases {line : Line} {width start : Nat} {analysis : Analysis}
    {glyphs : List (Nat × Char)} {layout : RowLayout}
    (h : line.layout width analysis start glyphs = .ok layout) :
    (analysis.isSingle = true ∧ layout = { direction := analysis.direction }) ∨
    (analysis.isSingle = true ∧ layout =
      { direction := analysis.direction
        arrangement := .ordered (RowLayout.straightColumns width analysis.direction) glyphs }) ∨
    ∃ order, analysis.isSingle = false ∧
      analysis.reorder start (start + line.spans.size) = .ok order ∧ layout =
        { direction := analysis.direction
          hasForeign := true
          arrangement := .ordered (line.columns width analysis.direction order) glyphs } := by
  unfold Line.layout at h
  by_cases hsingle : analysis.isSingle = true
  · rw [if_pos hsingle] at h
    obtain rfl := Except.ok.inj h
    by_cases hglyphs : glyphs.isEmpty = true
    · exact .inl ⟨hsingle, by rw [if_pos hglyphs]⟩
    · exact .inr (.inl ⟨hsingle, by rw [if_neg hglyphs]⟩)
  · rw [if_neg hsingle] at h
    cases horder : analysis.reorder start (start + line.spans.size) with
    | error error =>
      rw [horder] at h
      cases h
    | ok order =>
      rw [horder] at h
      exact .inr (.inr ⟨order, by simpa using hsingle, rfl, (Except.ok.inj h).symm⟩)

theorem layout_isBijection {width : Nat} {row : Row} {analysis : Analysis} {start length : Nat}
    {glyphs : List (Nat × Char)} {layout : RowLayout} (hwf : analysis.WellFormed length)
    (hstop : start + (ofRow width row).spans.size ≤ length)
    (h : (ofRow width row).layout width analysis start glyphs = .ok layout) :
    layout.IsBijection width := by
  obtain ⟨-, rfl⟩ | ⟨-, rfl⟩ | ⟨order, -, horder, rfl⟩ := layout_cases h
  · exact RowLayout.isBijection_straight _ _ _
  · exact RowLayout.straightColumns_perm width _
  · exact columns_perm _ (perm_of_reorder hwf hstop horder)

/-- When the classifier keeps its promise, every line of a paragraph that has an order
has one that is a bijection.  The induction is on the rows, with the character at which
the next line begins. -/
theorem layoutsFrom_isBijection {width : Nat} {rows : List Row} {analysis : Analysis}
    {start length : Nat} {glyphs : List (Nat × Char)} (hwf : analysis.WellFormed length)
    (hstop : start + ((rows.map (ofRow width)).flatMap text).length ≤ length) :
    ∀ layout, .ok layout ∈ layoutsFrom width analysis start glyphs (rows.map (ofRow width)) →
      layout.IsBijection width := by
  induction rows generalizing start glyphs with
  | nil =>
    intro layout h
    cases h
  | cons row rest ih =>
    intro layout h
    rw [List.map_cons, List.flatMap_cons, List.length_append, length_text] at hstop
    rw [List.map_cons, layoutsFrom] at h
    rcases List.mem_cons.1 h with hown | hlater
    · exact layout_isBijection hwf (by omega) hown.symm
    · exact ih (by omega) layout hlater

end Line

end BidiViewport
