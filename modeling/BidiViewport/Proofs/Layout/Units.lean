import Mathlib.Data.List.Perm.Basic
import BidiViewport.Proofs.Layout.Answers

/-!
# Units of cells

* `Cell.IsUnit`: cells that stay together when a row is ordered, said of the cells alone: a
  leader with the fragments behind it, or a fragment without a leader.
* `Line.units`: the characters of a line are the units of its cells (`Line.listsUnits_ofRow`).
* `DrawnTogether`: a unit is drawn in one piece and in one direction.  Every layout of a line
  draws its units so (`Line.drawnTogether_layout`).
* `Line.reading_ordered`: in a line that was ordered, the units stand in the order of the
  analysis, each in the direction of its level.
-/

namespace BidiViewport

namespace Cell

/-! ## Units -/

def fragmentAt (cells : List Cell) (column : Nat) : Bool :=
  cells[column]?.any isFragment

def leaderAt (cells : List Cell) (column : Nat) : Bool :=
  cells[column]?.any fun cell => !cell.isFragment

/-- The `count` cells from `first` on are a unit. -/
inductive IsUnit (cells : List Cell) : (first count : Nat) → Prop
  /-- A leader with all the fragments that follow it. -/
  | led {first fragments : Nat} (hleader : leaderAt cells first = true)
      (hfragments : ∀ j < fragments, fragmentAt cells (first + 1 + j) = true)
      (hend : fragmentAt cells (first + 1 + fragments) = false) :
      IsUnit cells first (fragments + 1)
  /-- A fragment that no leader is before. -/
  | orphan {first : Nat} (h : ∀ column ≤ first, fragmentAt cells column = true) :
      IsUnit cells first 1

/-- The units of the cells from left to right, each with its first column and the number of
its columns. -/
structure ListsUnits (cells : List Cell) (units : List (Nat × Nat)) : Prop where
  sorted : units.Pairwise (·.1 < ·.1)
  mem_iff : ∀ first count, (first, count) ∈ units ↔ IsUnit cells first count

/-- The units are determined by the cells. -/
theorem ListsUnits.unique {cells : List Cell} {a b : List (Nat × Nat)} (ha : ListsUnits cells a)
    (hb : ListsUnits cells b) : a = b := by
  have hnodup {units : List (Nat × Nat)} (h : ListsUnits cells units) : units.Nodup := by
    refine h.sorted.imp fun hlt heq => ?_
    rw [heq] at hlt
    exact Nat.lt_irrefl _ hlt
  have hperm : a.Perm b := by
    refine (List.perm_ext_iff_of_nodup (hnodup ha) (hnodup hb)).2 fun unit => ?_
    rw [ha.mem_iff unit.1 unit.2, hb.mem_iff unit.1 unit.2]
  refine hperm.eq_of_pairwise (fun _ _ _ _ hlt hgt => ?_) ha.sorted hb.sorted
  exact absurd hlt (Nat.lt_asymm hgt)

@[simp] theorem fragmentAt_zero (cell : Cell) (rest : List Cell) :
    fragmentAt (cell :: rest) 0 = cell.isFragment := rfl

@[simp] theorem fragmentAt_succ (cell : Cell) (rest : List Cell) (column : Nat) :
    fragmentAt (cell :: rest) (column + 1) = fragmentAt rest column := rfl

theorem fragmentAt_drop (cells : List Cell) (start column : Nat) :
    fragmentAt (cells.drop start) column = fragmentAt cells (start + column) := by
  unfold fragmentAt
  rw [List.getElem?_drop]

theorem not_fragmentAt_of_leaderAt {cells : List Cell} {column : Nat}
    (h : leaderAt cells column = true) : fragmentAt cells column = false := by
  unfold leaderAt at h
  unfold fragmentAt
  cases hcell : cells[column]? with
  | none => rfl
  | some cell =>
    rw [hcell] at h
    simpa using h

theorem leaderAt_iff {cells : List Cell} {column : Nat} : leaderAt cells column = true ↔
    ∃ base marks columns, cells[column]? = some (.leader base marks columns) := by
  unfold leaderAt
  cases hcell : cells[column]? with
  | none => simp
  | some cell => cases cell <;> simp [isFragment]

/-! ## Units do not overlap -/

section Overlap

variable {cells : List Cell} {first first' count count' column : Nat}

theorem IsUnit.fragmentAt (h : IsUnit cells first count) (hlt : first < column)
    (hin : column < first + count) : fragmentAt cells column = true := by
  cases h with
  | led _ hfragments _ =>
    have hfragment := hfragments (column - first - 1) (by omega)
    rwa [show first + 1 + (column - first - 1) = column by omega] at hfragment
  | orphan _ => omega

theorem IsUnit.count_pos (h : IsUnit cells first count) : 0 < count := by
  cases h with
  | led _ _ _ => exact Nat.succ_pos _
  | orphan _ => exact Nat.one_pos

theorem IsUnit.lt_length (h : IsUnit cells first count) (hle : first ≤ column)
    (hin : column < first + count) : column < cells.length := by
  by_contra hpast
  have hnone : cells[column]? = none := List.getElem?_eq_none (Nat.le_of_not_lt hpast)
  have hfragment : Cell.fragmentAt cells column = false := by
    unfold Cell.fragmentAt
    rw [hnone]
    rfl
  rcases Nat.eq_or_lt_of_le hle with rfl | hbehind
  · cases h with
    | led hleader _ _ =>
      unfold leaderAt at hleader
      rw [hnone] at hleader
      cases hleader
    | orphan horphan =>
      rw [horphan _ (Nat.le_refl _)] at hfragment
      cases hfragment
  · rw [h.fragmentAt hbehind hin] at hfragment
    cases hfragment

/-- Where a unit begins, no other one goes on. -/
theorem IsUnit.first_le (h : IsUnit cells first count) (h' : IsUnit cells first' count')
    (hle : first' ≤ column) (hin : column < first + count) : first' ≤ first := by
  by_contra hlt
  have hfragment := h.fragmentAt (Nat.lt_of_not_le hlt) (Nat.lt_of_le_of_lt hle hin)
  cases h' with
  | led hleader _ _ =>
    rw [not_fragmentAt_of_leaderAt hleader] at hfragment
    cases hfragment
  | orphan horphan =>
    cases h with
    | led hleader _ _ =>
      have hfirst := horphan first (by omega)
      rw [not_fragmentAt_of_leaderAt hleader] at hfirst
      cases hfirst
    | orphan _ => omega

theorem IsUnit.count_le (h : IsUnit cells first count) (h' : IsUnit cells first count') :
    count ≤ count' := by
  by_contra hlt
  cases h' with
  | led _ _ hend =>
    rw [h.fragmentAt (by omega) (by omega)] at hend
    cases hend
  | orphan horphan =>
    cases h with
    | led hleader _ _ =>
      have hfirst := horphan first (Nat.le_refl first)
      rw [not_fragmentAt_of_leaderAt hleader] at hfirst
      cases hfirst
    | orphan _ => omega

/-- No two units share a column. -/
theorem IsUnit.unique (h : IsUnit cells first count) (h' : IsUnit cells first' count')
    (hin : first ≤ column ∧ column < first + count)
    (hin' : first' ≤ column ∧ column < first' + count') : first = first' ∧ count = count' := by
  obtain rfl : first = first' :=
    Nat.le_antisymm (h'.first_le h hin.1 hin'.2) (h.first_le h' hin'.1 hin.2)
  exact ⟨rfl, Nat.le_antisymm (h.count_le h') (h'.count_le h)⟩

end Overlap

end Cell

namespace CellSpan

theorem zero_eq_iff_of_not_fragmentAt {cells : List Cell} {n : Nat}
    (h : Cell.fragmentAt cells 0 = false) : 0 = n ↔
      (∀ j < n, Cell.fragmentAt cells j = true) ∧ Cell.fragmentAt cells n = false := by
  constructor
  · rintro rfl
    exact ⟨fun j hj => absurd hj (Nat.not_lt_zero j), h⟩
  · rintro ⟨hrun, -⟩
    by_contra hn
    rw [hrun 0 (Nat.pos_of_ne_zero (Ne.symm hn))] at h
    cases h

/-- How many fragments the cells begin with. -/
theorem fragmentRun_eq_iff {cells : List Cell} {n : Nat} : fragmentRun cells = n ↔
    (∀ j < n, Cell.fragmentAt cells j = true) ∧ Cell.fragmentAt cells n = false := by
  induction cells generalizing n with
  | nil => exact zero_eq_iff_of_not_fragmentAt rfl
  | cons cell rest ih =>
    cases cell with
    | leader base marks columns => exact zero_eq_iff_of_not_fragmentAt rfl
    | fragment columns =>
      rw [fragmentRun_fragment]
      cases n with
      | zero => simp [Cell.isFragment]
      | succ n =>
        rw [Nat.add_right_cancel_iff, ih, Cell.fragmentAt_succ]
        constructor
        · rintro ⟨hrun, hend⟩
          refine ⟨fun j hj => ?_, hend⟩
          cases j with
          | zero => rfl
          | succ j => exact hrun j (by omega)
        · rintro ⟨hrun, hend⟩
          exact ⟨fun j hj => hrun (j + 1) (by omega), hend⟩

theorem lt_fragmentRun_iff {cells : List Cell} {first : Nat} :
    first < fragmentRun cells ↔ ∀ column ≤ first, Cell.fragmentAt cells column = true := by
  obtain ⟨hrun, hend⟩ := fragmentRun_eq_iff.1 (rfl : fragmentRun cells = fragmentRun cells)
  constructor
  · intro hlt column hcolumn
    exact hrun column (by omega)
  · intro h
    by_contra hle
    rw [h _ (Nat.le_of_not_lt hle)] at hend
    cases hend

/-- The characters of the leaders: each has its own column and those of the fragments behind. -/
theorem mem_leadersFrom {column : Nat} {cells : List Cell} {span : CellSpan} :
    span ∈ leadersFrom column cells ↔ ∃ i base marks columns,
      cells[i]? = some (.leader base marks columns) ∧
        span = ⟨analysed base, column + i, fragmentRun (cells.drop (i + 1)) + 1⟩ := by
  induction cells generalizing column with
  | nil => simp [leadersFrom]
  | cons cell rest ih =>
    have hlater : (∃ i base marks columns, rest[i]? = some (.leader base marks columns) ∧
        span = ⟨analysed base, column + 1 + i, fragmentRun (rest.drop (i + 1)) + 1⟩) ↔
        ∃ i base marks columns, (cell :: rest)[i + 1]? = some (.leader base marks columns) ∧
          span = ⟨analysed base, column + (i + 1),
            fragmentRun ((cell :: rest).drop (i + 1 + 1)) + 1⟩ := by
      simp only [List.getElem?_cons_succ, List.drop_succ_cons, Nat.add_assoc, Nat.add_comm 1]
    cases cell with
    | leader base marks columns =>
      rw [leadersFrom, List.mem_cons, ih, hlater]
      constructor
      · rintro (rfl | ⟨i, h⟩)
        · exact ⟨0, base, marks, columns, rfl, rfl⟩
        · exact ⟨i + 1, h⟩
      · rintro ⟨i, base', marks', columns', hcell, rfl⟩
        cases i with
        | zero =>
          cases hcell
          exact .inl rfl
        | succ i => exact .inr ⟨i, base', marks', columns', hcell, rfl⟩
    | fragment columns =>
      rw [leadersFrom, ih, hlater]
      constructor
      · rintro ⟨i, h⟩
        exact ⟨i + 1, h⟩
      · rintro ⟨i, base', marks', columns', hcell, rfl⟩
        cases i with
        | zero => cases hcell
        | succ i => exact ⟨i, base', marks', columns', hcell, rfl⟩

theorem mem_units_iff {cells : List Cell} {first count : Nat} :
    (first, count) ∈ (ofCells cells).map unit ↔ Cell.IsUnit cells first count := by
  have horphan : (first, count) ∈ ((List.range (fragmentRun cells)).map (⟨' ', ·, 1⟩)).map unit ↔
      first < fragmentRun cells ∧ count = 1 := by
    simp only [List.map_map, List.mem_map, List.mem_range, Function.comp_apply, unit,
      Prod.mk.injEq]
    constructor
    · rintro ⟨i, hi, rfl, rfl⟩
      exact ⟨hi, rfl⟩
    · rintro ⟨hfirst, rfl⟩
      exact ⟨first, hfirst, rfl, rfl⟩
  have hled : (first, count) ∈ (leadersFrom 0 cells).map unit ↔
      Cell.leaderAt cells first = true ∧ fragmentRun (cells.drop (first + 1)) + 1 = count := by
    rw [List.mem_map, Cell.leaderAt_iff]
    constructor
    · rintro ⟨span, hspan, hunit⟩
      obtain ⟨i, base, marks, columns, hcell, rfl⟩ := mem_leadersFrom.1 hspan
      obtain ⟨rfl, rfl⟩ := Prod.mk.inj hunit
      rw [Nat.zero_add]
      exact ⟨⟨base, marks, columns, hcell⟩, rfl⟩
    · rintro ⟨⟨base, marks, columns, hcell⟩, rfl⟩
      refine ⟨_, mem_leadersFrom.2 ⟨first, base, marks, columns, hcell, rfl⟩, ?_⟩
      rw [unit, Nat.zero_add]
  rw [ofCells, List.map_append, List.mem_append, horphan, hled]
  constructor
  · rintro (⟨hfirst, rfl⟩ | ⟨hleader, rfl⟩)
    · exact .orphan (lt_fragmentRun_iff.1 hfirst)
    · obtain ⟨hrun, hend⟩ := fragmentRun_eq_iff.1
        (rfl : fragmentRun (cells.drop (first + 1)) = fragmentRun (cells.drop (first + 1)))
      refine .led hleader (fun j hj => ?_) ?_
      · rw [← Cell.fragmentAt_drop]
        exact hrun j hj
      · rw [← Cell.fragmentAt_drop]
        exact hend
  · rintro (⟨hleader, hfragments, hend⟩ | ⟨h⟩)
    · refine .inr ⟨hleader, ?_⟩
      rw [Nat.add_right_cancel_iff, fragmentRun_eq_iff]
      simp only [Cell.fragmentAt_drop]
      exact ⟨hfragments, hend⟩
    · exact .inl ⟨lt_fragmentRun_iff.2 h, rfl⟩

theorem sorted_leadersFrom (column : Nat) (cells : List Cell) :
    (leadersFrom column cells).Pairwise (·.column < ·.column) := by
  induction cells generalizing column with
  | nil => exact .nil
  | cons cell rest ih =>
    cases cell with
    | leader base marks columns =>
      refine .cons (fun span hspan => ?_) (ih (column + 1))
      obtain ⟨i, _, _, _, _, rfl⟩ := mem_leadersFrom.1 hspan
      dsimp only
      omega
    | fragment columns => exact ih (column + 1)

/-- The characters of a row are its units from left to right. -/
theorem listsUnits (cells : List Cell) : Cell.ListsUnits cells ((ofCells cells).map unit) := by
  refine ⟨?_, fun first count => mem_units_iff⟩
  rw [List.pairwise_map, ofCells, List.pairwise_append]
  refine ⟨?_, sorted_leadersFrom 0 cells, fun orphan horphan span hspan => ?_⟩
  · rw [List.pairwise_map]
    exact List.pairwise_lt_range
  · obtain ⟨i, hi, rfl⟩ := List.mem_map.1 horphan
    obtain ⟨j, base, marks, columns, hcell, rfl⟩ := mem_leadersFrom.1 hspan
    -- A leader ends the fragments that the row begins with.
    have hleader := Cell.leaderAt_iff.2 ⟨base, marks, columns, hcell⟩
    have hrun := lt_fragmentRun_iff.1 (List.mem_range.1 hi)
    simp only [unit, Nat.zero_add]
    by_contra hle
    have hfragment := hrun j (Nat.le_of_not_lt hle)
    rw [Cell.not_fragmentAt_of_leaderAt hleader] at hfragment
    cases hfragment

/-- Every cell is in a unit. -/
theorem exists_isUnit {cells : List Cell} {column : Nat} (h : column < cells.length) :
    ∃ first count, Cell.IsUnit cells first count ∧ first ≤ column ∧ column < first + count := by
  have hmem : column ∈ (ofCells cells).flatMap extent := by
    rw [flatMap_extent_ofCells]
    exact List.mem_range.2 h
  obtain ⟨span, hspan, hextent⟩ := List.mem_flatMap.1 hmem
  refine ⟨span.column, span.columns, ?_, List.mem_range'_1.1 hextent⟩
  exact mem_units_iff.1 (List.mem_map_of_mem hspan)

end CellSpan

/-! ## Drawing a unit in one piece -/

/-- The visual column at which `used` columns of text begin in a row of `width` columns. -/
def Direction.textStart (used width : Nat) : Direction → Nat
  | ltr => 0
  | rtl => width - used

/-- The columns from `first` on, `count` of them, are drawn side by side in one direction. -/
def DrawnTogether (toVisual : Int → Int) (directionOf : Int → Direction) (first count : Nat) :
    Prop :=
  ∃ direction, ∀ j : Nat, j < count → directionOf (toVisual (first + j)) = direction ∧
    toVisual (first + j) = match direction with
      | .ltr => toVisual first + j
      | .rtl => toVisual first - j

/-- The logical column and the direction of the visual columns from `left` on, `count` of
them, from left to right. -/
def reading (toLogical : Int → Int) (directionOf : Int → Direction) (left count : Nat) :
    List (Int × Direction) :=
  (List.range' left count).map fun visual : Nat => (toLogical visual, directionOf visual)

/-- The columns of a unit from left to right when it is drawn in a direction. -/
def drawnUnit (unit : Nat × Nat) (direction : Direction) : List (Int × Direction) :=
  let ascending := (List.range unit.2).map fun j : Nat => ((unit.1 : Int) + j, direction)
  match direction with
  | .ltr => ascending
  | .rtl => ascending.reverse

theorem drawnTogether_of_straight {toVisual : Int → Int} {directionOf : Int → Direction}
    {width : Nat} {direction : Direction}
    (hcolumns : ∀ column, toVisual column = RowLayout.straightColumn width direction column)
    (hdirections : ∀ visual, directionOf visual = direction) (first count : Nat) :
    DrawnTogether toVisual directionOf first count := by
  refine ⟨direction, fun j _ => ⟨hdirections _, ?_⟩⟩
  cases direction with
  | ltr =>
    rw [hcolumns, hcolumns]
    rfl
  | rtl =>
    simp only [hcolumns, RowLayout.straightColumn]
    omega

namespace CellSpan

theorem getElem?_drawn_ltr {span : CellSpan} {j : Nat} (hj : j < span.columns) :
    (span.drawn .ltr)[j]? = some (span.column + j, .ltr) := by
  simp [drawn, hj]

theorem getElem?_drawn_rtl {span : CellSpan} {j : Nat} (hj : j < span.columns) :
    (span.drawn .rtl)[span.columns - 1 - j]? = some (span.column + j, .rtl) := by
  have hlength : span.columns - 1 - (span.columns - 1 - j) = j := by omega
  simp only [drawn]
  rw [List.getElem?_reverse (by simp; omega)]
  simp [hlength, hj]

theorem map_drawn (span : CellSpan) (direction : Direction) :
    ((span.drawn direction).map fun column => ((column.1 : Int), column.2)) =
      drawnUnit span.unit direction := by
  have hascending : ((List.range' span.column span.columns).map (·, direction)).map
      (fun column => ((column.1 : Int), column.2)) =
      (List.range span.columns).map fun j : Nat => ((span.column : Int) + j, direction) := by
    simp [List.range'_eq_map_range, Function.comp_def]
  cases direction with
  | ltr => exact hascending
  | rtl =>
    simp only [drawn, drawnUnit, List.map_reverse, unit]
    rw [hascending]

end CellSpan

namespace RowLayout

variable {layout : RowLayout} {columns : List (Nat × Direction)} {glyphs : List (Nat × Char)}
  {width : Nat}

theorem answers_of_getElem? (harrangement : layout.arrangement = .ordered columns glyphs)
    (h : layout.IsBijection width) {i : Nat} {column : Nat × Direction}
    (hi : columns[i]? = some column) :
    layout.toLogical width i = column.1 ∧ layout.visualDirection width i = column.2 ∧
      layout.toVisual width column.1 = i := by
  have hperm := perm_of_isBijection harrangement h
  have hlt : i < width := by
    rw [← length_of_perm hperm]
    exact (List.getElem?_eq_some_iff.1 hi).1
  have hshown : layout.shown? width i = some column := by
    rw [shown?_inside harrangement (by omega), Int.toNat_natCast, hi]
  have hlogical := toLogical_of_shown hshown
  refine ⟨hlogical, ?_, ?_⟩
  · unfold visualDirection
    rw [hshown]
  · rw [← hlogical, toVisual_toLogical h]

/-- A row that is spelt out without being ordered answers as a straight one. -/
theorem answers_straightColumns
    (harrangement : layout.arrangement =
      .ordered (straightColumns width layout.direction) glyphs) :
    (∀ column, layout.toVisual width column = straightColumn width layout.direction column) ∧
      ∀ visual, layout.visualDirection width visual = layout.direction := by
  have hbijection : layout.IsBijection width := by
    unfold IsBijection
    rw [harrangement]
    exact straightColumns_perm width _
  have hshown : ∀ visual : Int, (layout.toLogical width visual =
      straightColumn width layout.direction visual) ∧
      layout.visualDirection width visual = layout.direction := by
    intro visual
    by_cases hin : 0 ≤ visual ∧ visual < width
    · obtain ⟨i, rfl⟩ := Int.eq_ofNat_of_zero_le hin.1
      have hi : i < width := by omega
      obtain ⟨hlogical, hdirection, -⟩ := answers_of_getElem? harrangement hbijection
        (i := i) (by rw [straightColumns, List.getElem?_map, List.getElem?_range hi]; rfl)
      refine ⟨hlogical.trans ?_, hdirection⟩
      cases layout.direction with
      | ltr => rfl
      | rtl =>
        simp only [straightColumn]
        omega
    · have hnone : layout.shown? width visual = none := shown?_outside hin
      refine ⟨toLogical_of_shown_none hnone, ?_⟩
      unfold visualDirection
      rw [hnone]
  refine ⟨fun column => ?_, fun visual => (hshown visual).2⟩
  have hinverse := toVisual_toLogical hbijection (straightColumn width layout.direction column)
  rwa [(hshown _).1, straightColumn_straightColumn] at hinverse

theorem drawnTogether_of_block (harrangement : layout.arrangement = .ordered columns glyphs)
    (h : layout.IsBijection width) {span : CellSpan} {direction : Direction}
    {before after : List (Nat × Direction)}
    (hcolumns : columns = before ++ span.drawn direction ++ after) :
    DrawnTogether (layout.toVisual width) (layout.visualDirection width) span.column
      span.columns := by
  have hblock {i : Nat} {column : Nat × Direction} (hi : (span.drawn direction)[i]? = some column) :
      layout.toVisual width column.1 = before.length + i ∧
        layout.visualDirection width (layout.toVisual width column.1) = column.2 := by
    have hlt := (List.getElem?_eq_some_iff.1 hi).1
    have hplace : columns[before.length + i]? = some column := by
      rw [hcolumns, List.append_assoc, List.getElem?_append_right (by omega),
        Nat.add_sub_cancel_left, List.getElem?_append_left hlt, hi]
    obtain ⟨-, hdirection, hvisual⟩ := answers_of_getElem? harrangement h hplace
    rw [hvisual]
    exact ⟨by omega, hdirection⟩
  refine ⟨direction, fun j hj => ?_⟩
  cases direction with
  | ltr =>
    have hfirst := (hblock (CellSpan.getElem?_drawn_ltr (j := 0) (by omega))).1
    obtain ⟨hvisual, hdirection⟩ := hblock (CellSpan.getElem?_drawn_ltr hj)
    refine ⟨hdirection, ?_⟩
    dsimp only at hfirst hvisual ⊢
    rw [Nat.add_zero] at hfirst
    push_cast at hvisual hfirst
    omega
  | rtl =>
    -- The first column of the unit is the last one of its block.
    have hfirst := (hblock (CellSpan.getElem?_drawn_rtl (j := 0) (by omega))).1
    obtain ⟨hvisual, hdirection⟩ := hblock (CellSpan.getElem?_drawn_rtl hj)
    refine ⟨hdirection, ?_⟩
    dsimp only at hfirst hvisual ⊢
    rw [Nat.add_zero] at hfirst
    push_cast at hvisual hfirst
    omega

theorem reading_of_block (harrangement : layout.arrangement = .ordered columns glyphs)
    (h : layout.IsBijection width) {before block after : List (Nat × Direction)}
    (hcolumns : columns = before ++ block ++ after) :
    reading (layout.toLogical width) (layout.visualDirection width) before.length block.length =
      block.map fun column => ((column.1 : Int), column.2) := by
  unfold reading
  apply List.ext_getElem?
  intro i
  rw [List.getElem?_map, List.getElem?_map]
  by_cases hi : i < block.length
  · have hplace : columns[before.length + i]? = some block[i] := by
      rw [hcolumns, List.append_assoc, List.getElem?_append_right (by omega),
        Nat.add_sub_cancel_left, List.getElem?_append_left hi, List.getElem?_eq_getElem hi]
    obtain ⟨hlogical, hdirection, -⟩ := answers_of_getElem? harrangement h hplace
    rw [List.getElem?_range' hi, List.getElem?_eq_getElem hi]
    simp only [Option.map_some, Nat.one_mul, hlogical, hdirection]
  · have hle := Nat.le_of_not_lt hi
    rw [List.getElem?_eq_none (by simpa using hle), List.getElem?_eq_none hle]
    rfl

theorem drawnTogether_straight (harrangement : layout.arrangement = .straight) (first count : Nat) :
    DrawnTogether (layout.toVisual width) (layout.visualDirection width) first count := by
  refine drawnTogether_of_straight (fun column => toVisual_straight harrangement)
    (fun visual => ?_) first count
  unfold visualDirection
  rw [shown?_straight harrangement]

theorem drawnTogether_straightColumns (harrangement : layout.arrangement =
      .ordered (straightColumns width layout.direction) glyphs) (first count : Nat) :
    DrawnTogether (layout.toVisual width) (layout.visualDirection width) first count := by
  obtain ⟨hvisual, hdirection⟩ := answers_straightColumns harrangement
  exact drawnTogether_of_straight hvisual hdirection first count

end RowLayout

/-! ## The units of a line -/

namespace Line

theorem listsUnits_ofRow (width : Nat) (row : Row) :
    Cell.ListsUnits (row.cells.toList.take width) (ofRow width row).units :=
  CellSpan.listsUnits _

theorem length_leftPadding (line : Line) (width : Nat) (direction : Direction) :
    (line.leftPadding width direction).length = direction.textStart line.used width := by
  cases direction with
  | ltr => rfl
  | rtl => simp [leftPadding, Direction.textStart]

/-- The content of a line is its units in the visual order. -/
theorem content_eq (line : Line) (order : LineOrder) :
    ((line.content order).map fun column => ((column.1 : Int), column.2)) =
      order.visual.toList.flatMap fun i => line.units[i]?.elim [] fun unit =>
        drawnUnit unit (.ofLevel (order.levels[i]?.getD 0)) := by
  unfold content units
  rw [List.map_flatMap]
  refine congrArg (order.visual.toList.flatMap ·) (funext fun i => ?_)
  rw [List.getElem?_map, Array.getElem?_toList]
  cases line.spans[i]? with
  | none => rfl
  | some span => exact span.map_drawn _

section Ordered

variable {row : Row} {order : LineOrder} {layout : RowLayout} {width : Nat} {direction : Direction}
  {glyphs : List (Nat × Char)}

theorem isBijection_ordered (horder : order.visual.toList.Perm
      (List.range (ofRow width row).spans.size))
    (harrangement : layout.arrangement =
      .ordered ((ofRow width row).columns width direction order) glyphs) :
    layout.IsBijection width := by
  unfold RowLayout.IsBijection
  rw [harrangement]
  exact columns_perm direction horder

/-- The columns of a character in the order are a block of those of its line. -/
theorem exists_columns_split {i : Nat} {span : CellSpan} (hindex : i ∈ order.visual.toList)
    (hi : (ofRow width row).spans[i]? = some span) (direction : Direction) :
    ∃ before after spanDirection, (ofRow width row).columns width direction order =
      before ++ span.drawn spanDirection ++ after := by
  obtain ⟨earlier, later, hsplit⟩ := List.append_of_mem hindex
  obtain ⟨before, after, spanDirection, hcontent⟩ : ∃ before after spanDirection,
      (ofRow width row).content order = before ++ (span.drawn spanDirection ++ after) := by
    unfold content
    rw [hsplit, List.flatMap_append, List.flatMap_cons, hi]
    exact ⟨_, _, _, rfl⟩
  unfold columns
  dsimp only
  rw [hcontent]
  generalize List.map _ (List.range' _ _) = right
  exact ⟨(ofRow width row).leftPadding width direction ++ before, after ++ right, spanDirection,
    by simp only [List.append_assoc]⟩

/-- A used column of the line is one of a character in the order, or is left at its own place
behind the content. -/
theorem exists_span_of_mem_columns {line : Line} {column : Nat} (hused : column < line.used)
    (hle : line.used ≤ width) (h : column ∈ (line.columns width direction order).map Prod.fst) :
    (∃ i ∈ order.visual.toList, ∃ span, line.spans[i]? = some span ∧ column ∈ span.extent) ∨
      (line.leftPadding width direction ++ line.content order).length ≤ column := by
  obtain ⟨⟨_, drawn⟩, hmem, rfl⟩ := List.mem_map.1 h
  rcases List.mem_append.1 hmem with hleft | hright
  · rcases List.mem_append.1 hleft with hpadding | hcontent
    · cases direction with
      | ltr => cases hpadding
      | rtl =>
        obtain ⟨visual, hvisual, hcolumn⟩ := List.mem_map.1 hpadding
        have hlt := List.mem_range.1 hvisual
        cases hcolumn
        dsimp only at hused
        omega
    · obtain ⟨i, hindex, hspan⟩ := List.mem_flatMap.1 hcontent
      cases hi : line.spans[i]? with
      | none =>
        rw [hi] at hspan
        cases hspan
      | some span =>
        rw [hi] at hspan
        refine .inl ⟨i, hindex, span, hi, ?_⟩
        exact (span.drawn_fst_perm _).mem_iff.1 (List.mem_map_of_mem hspan)
  · obtain ⟨visual, hvisual, hcolumn⟩ := List.mem_map.1 hright
    cases hcolumn
    exact .inr (List.mem_range'_1.1 hvisual).1

theorem getElem?_columns_behind {line : Line} {visual : Nat}
    (hle : (line.leftPadding width direction ++ line.content order).length ≤ visual)
    (hlt : visual < width) :
    (line.columns width direction order)[visual]? = some (visual, .ltr) := by
  unfold columns
  dsimp only
  rw [List.getElem?_append_right hle, List.getElem?_map, List.getElem?_range' (by omega)]
  simp only [Option.map_some, Nat.one_mul, Nat.add_sub_cancel' hle]

/-- Wherever an order that passes the check of the map puts a unit, its columns go there
together. -/
theorem drawnTogether_ordered (harrangement : layout.arrangement =
      .ordered ((ofRow width row).columns width direction order) glyphs)
    (hbijection : layout.IsBijection width) {unit : Nat × Nat}
    (hunit : unit ∈ (ofRow width row).units) :
    DrawnTogether (layout.toVisual width) (layout.visualDirection width) unit.1 unit.2 := by
  obtain ⟨first, count⟩ := unit
  have hunit := CellSpan.mem_units_iff.1 hunit
  have hle := used_ofRow_le width row
  have hused {j : Nat} (hj : j < count) : first + j < (ofRow width row).used := by
    have hlt := hunit.lt_length (Nat.le_add_right first j) (Nat.add_lt_add_left hj first)
    rw [List.length_take, Nat.min_comm] at hlt
    exact hlt
  rcases Nat.eq_zero_or_pos count with rfl | hpos
  · exact ⟨.ltr, fun j hj => absurd hj (Nat.not_lt_zero j)⟩
  have hfirst := hused hpos
  have hmem := (RowLayout.perm_of_isBijection harrangement hbijection).mem_iff.2
    (List.mem_range.2 (Nat.lt_of_lt_of_le hfirst hle))
  rcases exists_span_of_mem_columns hfirst hle hmem with ⟨i, hindex, span, hi, hin⟩ | hbehind
  · obtain ⟨before, after, spanDirection, hcolumns⟩ := exists_columns_split hindex hi direction
    have hspan : Cell.IsUnit (row.cells.toList.take width) span.column span.columns := by
      refine CellSpan.mem_units_iff.1 (List.mem_map_of_mem ?_)
      exact Array.mem_toList_iff.2 (Array.mem_of_getElem? hi)
    obtain ⟨rfl, rfl⟩ := hunit.unique hspan ⟨Nat.le_refl _, Nat.lt_add_of_pos_right hpos⟩
      (List.mem_range'_1.1 hin)
    exact RowLayout.drawnTogether_of_block harrangement hbijection hcolumns
  · -- The content ends before the unit, which is where it would be without an order.
    refine ⟨.ltr, ?_⟩
    have hown {j : Nat} (hj : j < count) :
        layout.toVisual width (first + j : Nat) = (first + j : Nat) ∧
          layout.visualDirection width (first + j : Nat) = .ltr := by
      have hplace := Nat.le_trans hbehind (Nat.le_add_right first j)
      obtain ⟨-, hdirection, hvisual⟩ := RowLayout.answers_of_getElem? harrangement hbijection
        (getElem?_columns_behind hplace (Nat.lt_of_lt_of_le (hused hj) hle))
      exact ⟨hvisual, hdirection⟩
    intro j hj
    obtain ⟨hvisual, hdirection⟩ := hown hj
    have hstart := (hown hpos).1
    dsimp only
    rw [Nat.add_zero] at hstart
    rw [← Int.natCast_add, hvisual, hdirection, hstart]
    exact ⟨rfl, Int.natCast_add first j⟩

/-- Read from left to right, the content of an ordered line is its units in their visual
order. -/
theorem reading_ordered (horder : order.visual.toList.Perm
      (List.range (ofRow width row).spans.size))
    (harrangement : layout.arrangement =
      .ordered ((ofRow width row).columns width direction order) glyphs) :
    reading (layout.toLogical width) (layout.visualDirection width)
        (direction.textStart (ofRow width row).used width) (ofRow width row).used =
      order.visual.toList.flatMap fun i => (ofRow width row).units[i]?.elim [] fun unit =>
        drawnUnit unit (.ofLevel (order.levels[i]?.getD 0)) := by
  have hbijection := isBijection_ordered horder harrangement
  have hlength : ((ofRow width row).content order).length = (ofRow width row).used := by
    have hperm := (content_perm horder).length_eq
    rwa [List.length_map, List.length_range] at hperm
  rw [← content_eq, ← length_leftPadding, ← hlength]
  exact RowLayout.reading_of_block harrangement hbijection rfl

end Ordered

/-- However a line is laid out, its units stay in one piece. -/
theorem drawnTogether_layout {row : Row} {width start : Nat} {analysis : Analysis}
    {glyphs : List (Nat × Char)} {layout : RowLayout}
    (h : (ofRow width row).layout width analysis start glyphs = .ok layout)
    (hbijection : layout.IsBijection width) {unit : Nat × Nat}
    (hunit : unit ∈ (ofRow width row).units) :
    DrawnTogether (layout.toVisual width) (layout.visualDirection width) unit.1 unit.2 := by
  obtain ⟨-, rfl⟩ | ⟨-, rfl⟩ | ⟨order, -, -, rfl⟩ := layout_cases h
  · exact RowLayout.drawnTogether_straight rfl _ _
  · exact RowLayout.drawnTogether_straightColumns rfl _ _
  · exact drawnTogether_ordered rfl hbijection hunit

end Line

end BidiViewport
