import BidiViewport.Layout.RowMap
import BidiViewport.Proofs.Layout.Columns

/-!
# What a row map answers

A row map keeps its slots when the layout in it changes, so what is in them depends on
everything that was ever laid out there.  Its answers do not: a layout that is a
bijection has answers of its own (`RowLayout.toVisual` and the like), and a map with
room for its row gives exactly these once the layout is in it (`RowMap.shows_apply`).

* `RowMap.isLinked_linkFrom`: the slots of a row after its columns are linked.
* `RowMap.IsLinked.placeGlyphs`: the same slots after glyphs are placed; of several
  glyphs for a column the last one stays.
* `RowLayout.toLogical_toVisual`, `RowLayout.toVisual_toLogical`: the two directions are
  inverse on all integers.
-/

namespace BidiViewport

/-! ## The answers of a layout -/

namespace RowLayout

/-- Every column is at its own place, and none is looked up. -/
def isStraight (layout : RowLayout) : Bool :=
  match layout.arrangement with
  | .straight => true
  | .ordered _ _ => false

/-- The entry of a visual column, for visual columns of an ordered row. -/
def shown? (layout : RowLayout) (width : Nat) (visual : Int) : Option (Nat × Direction) :=
  match layout.arrangement with
  | .straight => none
  | .ordered columns _ =>
    if 0 ≤ visual ∧ visual < width then columns[visual.toNat]? else none

/-- The logical column of a visual one. -/
def toLogical (layout : RowLayout) (width : Nat) (visual : Int) : Int :=
  match layout.shown? width visual with
  | some column => column.1
  | none => straightColumn width layout.direction visual

/-- The visual column of a logical one. -/
def toVisual (layout : RowLayout) (width : Nat) (column : Int) : Int :=
  match layout.arrangement with
  | .straight => straightColumn width layout.direction column
  | .ordered columns _ =>
    if 0 ≤ column ∧ column < width then (columns.map Prod.fst).idxOf column.toNat
    else straightColumn width layout.direction column

/-- The direction of a visual column. -/
def visualDirection (layout : RowLayout) (width : Nat) (visual : Int) : Direction :=
  match layout.shown? width visual with
  | some column => column.2
  | none => layout.direction

/-- The glyph for a logical column; the last one, if there are several. -/
def glyphFor? (layout : RowLayout) (column : Nat) : Option Char :=
  match layout.arrangement with
  | .straight => none
  | .ordered _ glyphs => glyphs.reverse.lookup column

/-- The glyph to draw at a visual column. -/
def glyph? (layout : RowLayout) (width : Nat) (visual : Int) : Option Char :=
  (layout.shown? width visual).bind fun column => layout.glyphFor? column.1

/-- Columns outside the row stay outside when they are mirrored about it. -/
theorem straightColumn_outside {width : Nat} {direction : Direction} {column : Int}
    (h : ¬(0 ≤ column ∧ column < width)) :
    ¬(0 ≤ straightColumn width direction column ∧
      straightColumn width direction column < width) := by
  cases direction <;> simp only [straightColumn] <;> omega

theorem straightColumn_inside {width : Nat} {direction : Direction} {column : Int}
    (h : 0 ≤ column ∧ column < width) :
    0 ≤ straightColumn width direction column ∧
      straightColumn width direction column < width := by
  cases direction <;> simp only [straightColumn] <;> omega

/-! ### The two directions are inverse -/

section Bijection

variable {layout : RowLayout} {columns : List (Nat × Direction)} {width : Nat}

theorem length_of_perm (h : (columns.map Prod.fst).Perm (List.range width)) :
    columns.length = width := by
  have hlength := h.length_eq
  rwa [List.length_map, List.length_range] at hlength

theorem nodup_of_perm (h : (columns.map Prod.fst).Perm (List.range width)) :
    (columns.map Prod.fst).Nodup :=
  h.nodup_iff.2 List.nodup_range

/-- The place of a column among distinct ones. -/
theorem idxOf_fst_eq_iff (h : (columns.map Prod.fst).Perm (List.range width))
    {i : Nat} {column : Nat × Direction} (hi : columns[i]? = some column) (logical : Nat)
    (hlogical : logical < width) :
    (columns.map Prod.fst).idxOf logical = i ↔ column.1 = logical := by
  have hmem : logical ∈ columns.map Prod.fst := h.mem_iff.2 (List.mem_range.2 hlogical)
  have hfst : (columns.map Prod.fst)[i]? = some column.1 := by
    rw [List.getElem?_map, hi]
    rfl
  obtain ⟨hlt, hget⟩ := List.getElem?_eq_some_iff.1 hfst
  constructor
  · rintro rfl
    rw [← hget]
    exact List.getElem_idxOf hlt
  · rintro rfl
    rw [← hget]
    exact (nodup_of_perm h).idxOf_getElem i hlt

theorem fst_lt_of_perm (h : (columns.map Prod.fst).Perm (List.range width)) {i : Nat}
    {column : Nat × Direction} (hi : columns[i]? = some column) : column.1 < width :=
  List.mem_range.1 (h.mem_iff.1 (List.mem_map_of_mem (List.mem_of_getElem? hi)))

theorem idxOf_lt_of_perm (h : (columns.map Prod.fst).Perm (List.range width))
    {logical : Nat} (hlogical : logical < width) :
    (columns.map Prod.fst).idxOf logical < width := by
  have hlt := List.idxOf_lt_length_of_mem (h.mem_iff.2 (List.mem_range.2 hlogical))
  rwa [List.length_map, length_of_perm h] at hlt

end Bijection

/-! ### Inside and outside the row -/

section Columns

variable {layout : RowLayout} {columns : List (Nat × Direction)} {glyphs : List (Nat × Char)}
  {width : Nat} {column : Int}

theorem shown?_outside (h : ¬(0 ≤ column ∧ column < width)) :
    layout.shown? width column = none := by
  unfold shown?
  cases layout.arrangement with
  | straight => rfl
  | ordered columns glyphs => exact if_neg h

theorem shown?_inside (harrangement : layout.arrangement = .ordered columns glyphs)
    (h : 0 ≤ column ∧ column < width) :
    layout.shown? width column = columns[column.toNat]? := by
  unfold shown?
  rw [harrangement]
  exact if_pos h

theorem shown?_straight (harrangement : layout.arrangement = .straight) :
    layout.shown? width column = none := by
  unfold shown?
  rw [harrangement]

theorem toLogical_of_shown_none (h : layout.shown? width column = none) :
    layout.toLogical width column = straightColumn width layout.direction column := by
  unfold toLogical
  rw [h]

theorem toLogical_of_shown {entry : Nat × Direction}
    (h : layout.shown? width column = some entry) : layout.toLogical width column = entry.1 := by
  unfold toLogical
  rw [h]

theorem toVisual_outside (h : ¬(0 ≤ column ∧ column < width)) :
    layout.toVisual width column = straightColumn width layout.direction column := by
  unfold toVisual
  cases layout.arrangement with
  | straight => rfl
  | ordered columns glyphs => exact if_neg h

theorem toVisual_straight (harrangement : layout.arrangement = .straight) :
    layout.toVisual width column = straightColumn width layout.direction column := by
  unfold toVisual
  rw [harrangement]

theorem toVisual_ordered (harrangement : layout.arrangement = .ordered columns glyphs)
    (h : 0 ≤ column ∧ column < width) :
    layout.toVisual width column = (columns.map Prod.fst).idxOf column.toNat := by
  unfold toVisual
  rw [harrangement]
  exact if_pos h

theorem perm_of_isBijection (harrangement : layout.arrangement = .ordered columns glyphs)
    (h : layout.IsBijection width) : (columns.map Prod.fst).Perm (List.range width) := by
  unfold IsBijection at h
  rwa [harrangement] at h

/-- Every visual column of an ordered row has an entry. -/
theorem exists_entry (h : (columns.map Prod.fst).Perm (List.range width)) {i : Nat}
    (hi : i < width) : ∃ entry, columns[i]? = some entry :=
  ⟨_, List.getElem?_eq_getElem (by rwa [length_of_perm h])⟩

theorem inside_of_shown {entry : Nat × Direction} (h : layout.shown? width column = some entry) :
    0 ≤ column ∧ column < width := by
  by_contra houtside
  rw [shown?_outside houtside] at h
  cases h

theorem straight_or_outside_of_shown_none (hlayout : layout.IsBijection width)
    (h : layout.shown? width column = none) :
    layout.arrangement = .straight ∨ ¬(0 ≤ column ∧ column < width) := by
  cases harrangement : layout.arrangement with
  | straight => exact .inl rfl
  | ordered columns glyphs =>
    refine .inr fun hin => ?_
    have hperm := perm_of_isBijection harrangement hlayout
    obtain ⟨entry, hentry⟩ := exists_entry hperm (i := column.toNat) (by omega)
    rw [shown?_inside harrangement hin, hentry] at h
    cases h

/-- A column without an entry is at its own place. -/
theorem toVisual_of_shown_none (hlayout : layout.IsBijection width)
    (h : layout.shown? width column = none) :
    layout.toVisual width column = straightColumn width layout.direction column := by
  rcases straight_or_outside_of_shown_none hlayout h with hstraight | hout
  · exact toVisual_straight hstraight
  · exact toVisual_outside hout

theorem shown?_toVisual_of_none (hlayout : layout.IsBijection width)
    (h : layout.shown? width column = none) :
    layout.shown? width (layout.toVisual width column) = none := by
  rcases straight_or_outside_of_shown_none hlayout h with hstraight | hout
  · exact shown?_straight hstraight
  · rw [toVisual_outside hout]
    exact shown?_outside (straightColumn_outside hout)

theorem isStraight_of_shown {entry : Nat × Direction}
    (h : layout.shown? width column = some entry) : layout.isStraight = false := by
  unfold shown? at h
  unfold isStraight
  cases harrangement : layout.arrangement with
  | straight => simp [harrangement] at h
  | ordered columns glyphs => rfl

end Columns

theorem toVisual_inside {layout : RowLayout} {width : Nat} (h : layout.IsBijection width)
    {column : Int} (hin : 0 ≤ column ∧ column < width) :
    0 ≤ layout.toVisual width column ∧ layout.toVisual width column < width := by
  cases harrangement : layout.arrangement with
  | straight =>
    rw [toVisual_straight harrangement]
    exact straightColumn_inside hin
  | ordered columns glyphs =>
    have hperm := perm_of_isBijection harrangement h
    have hlt : (columns.map Prod.fst).idxOf column.toNat < width :=
      idxOf_lt_of_perm hperm (by omega)
    rw [toVisual_ordered harrangement hin]
    omega

theorem toLogical_inside {layout : RowLayout} {width : Nat} (h : layout.IsBijection width)
    {visual : Int} (hin : 0 ≤ visual ∧ visual < width) :
    0 ≤ layout.toLogical width visual ∧ layout.toLogical width visual < width := by
  cases harrangement : layout.arrangement with
  | straight =>
    rw [toLogical_of_shown_none (shown?_straight harrangement)]
    exact straightColumn_inside hin
  | ordered columns glyphs =>
    have hperm := perm_of_isBijection harrangement h
    obtain ⟨entry, hentry⟩ := exists_entry hperm (i := visual.toNat) (by omega)
    have hlt := fst_lt_of_perm hperm hentry
    rw [toLogical_of_shown ((shown?_inside harrangement hin).trans hentry)]
    omega

theorem toLogical_toVisual {layout : RowLayout} {width : Nat} (h : layout.IsBijection width)
    (column : Int) : layout.toLogical width (layout.toVisual width column) = column := by
  by_cases hin : 0 ≤ column ∧ column < width
  · cases harrangement : layout.arrangement with
    | straight =>
      rw [toLogical_of_shown_none (shown?_straight harrangement),
        toVisual_straight harrangement, straightColumn_straightColumn]
    | ordered columns glyphs =>
      have hperm := perm_of_isBijection harrangement h
      have hlt : (columns.map Prod.fst).idxOf column.toNat < width :=
        idxOf_lt_of_perm hperm (by omega)
      obtain ⟨entry, hentry⟩ := exists_entry hperm hlt
      have hfst := (idxOf_fst_eq_iff hperm hentry column.toNat (by omega)).1 rfl
      have hshown := (shown?_inside harrangement (toVisual_inside h hin)).trans
        (by rw [toVisual_ordered harrangement hin, Int.toNat_natCast, hentry])
      rw [toLogical_of_shown hshown]
      omega
  · rw [toLogical_of_shown_none (shown?_outside (by
      rw [toVisual_outside hin]
      exact straightColumn_outside hin)), toVisual_outside hin, straightColumn_straightColumn]

theorem toVisual_toLogical {layout : RowLayout} {width : Nat} (h : layout.IsBijection width)
    (visual : Int) : layout.toVisual width (layout.toLogical width visual) = visual := by
  by_cases hin : 0 ≤ visual ∧ visual < width
  · cases harrangement : layout.arrangement with
    | straight =>
      rw [toLogical_of_shown_none (shown?_straight harrangement),
        toVisual_straight harrangement, straightColumn_straightColumn]
    | ordered columns glyphs =>
      have hperm := perm_of_isBijection harrangement h
      obtain ⟨entry, hentry⟩ := exists_entry hperm (i := visual.toNat) (by omega)
      have hbound := fst_lt_of_perm hperm hentry
      have hidx := (idxOf_fst_eq_iff hperm hentry entry.1 hbound).2 rfl
      rw [toLogical_of_shown ((shown?_inside harrangement hin).trans hentry),
        toVisual_ordered harrangement (by omega), Int.toNat_natCast, hidx]
      omega
  · rw [toLogical_of_shown_none (shown?_outside hin),
      toVisual_outside (straightColumn_outside hin), straightColumn_straightColumn]

end RowLayout

/-! ## The slots of a row -/

namespace RowMap

theorem getElem?_link (slots : Array Slot) (visual : Nat) (column : Nat × Direction) (i : Nat) :
    (link slots visual column)[i]? = slots[i]?.map fun slot =>
      { toVisual := if column.1 = i then visual else slot.toVisual
        toLogical := if visual = i then column.1 else slot.toLogical
        direction := if visual = i then column.2 else slot.direction
        glyph := if visual = i then none else slot.glyph } := by
  unfold link
  rw [Array.getElem?_modify, Array.getElem?_modify]
  cases slots[i]? with
  | none => simp
  | some slot => by_cases hvisual : visual = i <;> by_cases hlogical : column.1 = i <;>
      simp [hvisual, hlogical]

@[simp] theorem size_link (slots : Array Slot) (visual : Nat) (column : Nat × Direction) :
    (link slots visual column).size = slots.size := by
  rw [link, Array.size_modify, Array.size_modify]

@[simp] theorem size_linkFrom (slots : Array Slot) (visual : Nat)
    (columns : List (Nat × Direction)) : (linkFrom slots visual columns).size = slots.size := by
  induction columns generalizing slots visual with
  | nil => rfl
  | cons column rest ih =>
    rw [linkFrom, ih, size_link]

/-- The slots below `visual` keep their entries. -/
theorem linkFrom_below {slots : Array Slot} {visual i : Nat} (columns : List (Nat × Direction))
    (h : i < visual) :
    ((linkFrom slots visual columns)[i]?.map fun slot =>
      (slot.toLogical, slot.direction, slot.glyph)) =
      slots[i]?.map fun slot => (slot.toLogical, slot.direction, slot.glyph) := by
  induction columns generalizing slots visual with
  | nil => rfl
  | cons column rest ih =>
    rw [linkFrom, ih (by omega), getElem?_link, Option.map_map]
    congr 1
    funext slot
    simp [show visual ≠ i by omega]

/-- What the slots from `visual` on show once their columns are linked. -/
theorem linkFrom_entry {visual i : Nat} {columns : List (Nat × Direction)}
    {column : Nat × Direction} (slots : Array Slot) (hi : columns[i]? = some column)
    (hsize : visual + i < slots.size) :
    ((linkFrom slots visual columns)[visual + i]?.map fun slot =>
      (slot.toLogical, slot.direction, slot.glyph)) = some (column.1, column.2, none) := by
  induction columns generalizing slots visual i with
  | nil => cases hi
  | cons first rest ih =>
    rw [linkFrom]
    cases i with
    | zero =>
      obtain rfl : first = column := Option.some.inj hi
      rw [linkFrom_below rest (by omega), getElem?_link, Option.map_map,
        Array.getElem?_eq_getElem hsize]
      simp
    | succ i =>
      rw [show visual + (i + 1) = visual + 1 + i by omega]
      exact ih (link slots visual first) (by simpa using hi)
        (by rw [size_link]; omega)

/-- Where the slots say that logical columns are drawn once distinct columns are linked. -/
theorem linkFrom_toVisual (slots : Array Slot) (visual i : Nat)
    {columns : List (Nat × Direction)} (hnodup : (columns.map Prod.fst).Nodup) :
    ((linkFrom slots visual columns)[i]?.map Slot.toVisual) = slots[i]?.map fun slot =>
      if i ∈ columns.map Prod.fst then visual + (columns.map Prod.fst).idxOf i
      else slot.toVisual := by
  induction columns generalizing slots visual with
  | nil => simp [linkFrom]
  | cons column rest ih =>
    rw [List.map_cons, List.nodup_cons] at hnodup
    rw [linkFrom, ih _ _ hnodup.2, getElem?_link, Option.map_map]
    congr 1
    funext slot
    by_cases hfirst : column.1 = i
    · have hlater : i ∉ rest.map Prod.fst := hfirst ▸ hnodup.1
      simp [hfirst, hlater]
    · simp only [Function.comp_apply, List.map_cons, List.mem_cons, Ne.symm hfirst, false_or,
        hfirst, if_false, List.idxOf_cons_ne _ hfirst]
      split <;> omega

section Ordered

variable {columns : List (Nat × Direction)} {width : Nat}

/-- The slots of a row that an order was written to, with a glyph for each logical
column that has one. -/
def IsLinked (slots : Array Slot) (columns : List (Nat × Direction)) (width : Nat)
    (glyphFor? : Nat → Option Char) : Prop :=
  ∀ (i : Nat) (column : Nat × Direction), i < width → columns[i]? = some column →
    slots[i]? = some ⟨(columns.map Prod.fst).idxOf i, column.1, column.2, glyphFor? column.1⟩

/-- What the slots of a row held before does not matter. -/
theorem isLinked_linkFrom {slots : Array Slot}
    (hperm : (columns.map Prod.fst).Perm (List.range width)) (hsize : width ≤ slots.size) :
    IsLinked (linkFrom slots 0 columns) columns width fun _ => none := by
  intro i column hi hcolumn
  have hentry := linkFrom_entry slots hcolumn (show 0 + i < slots.size by omega)
  have hvisual := linkFrom_toVisual slots 0 i (RowLayout.nodup_of_perm hperm)
  have hmem : i ∈ columns.map Prod.fst := hperm.mem_iff.2 (List.mem_range.2 hi)
  rw [Nat.zero_add] at hentry
  obtain ⟨slot, hslot, hfields⟩ := Option.map_eq_some_iff.1 hentry
  rw [hslot, Array.getElem?_eq_getElem (by omega)] at hvisual
  simp only [Option.map_some, hmem, if_true, Nat.zero_add, Option.some.injEq] at hvisual
  rw [hslot]
  cases slot
  simp_all

/-- A glyph for a logical column goes to the visual column that shows it. -/
theorem IsLinked.placeGlyph {slots : Array Slot} {glyphFor? : Nat → Option Char}
    (hperm : (columns.map Prod.fst).Perm (List.range width))
    (h : IsLinked slots columns width glyphFor?) (glyph : Nat × Char) :
    IsLinked (placeGlyph width slots glyph) columns width fun column =>
      if column = glyph.1 then some glyph.2 else glyphFor? column := by
  intro i column hi hcolumn
  have hslot := h i column hi hcolumn
  have hbound := RowLayout.fst_lt_of_perm hperm hcolumn
  unfold RowMap.placeGlyph
  by_cases hglyph : glyph.1 < width
  · obtain ⟨entry, hentry⟩ := RowLayout.exists_entry hperm hglyph
    have hiff := RowLayout.idxOf_fst_eq_iff hperm hcolumn glyph.1 hglyph
    rw [if_pos hglyph, h _ entry hglyph hentry]
    dsimp only
    rw [Array.getElem?_modify, hslot]
    by_cases heq : column.1 = glyph.1
    · rw [if_pos (hiff.2 heq), if_pos heq]
      rfl
    · rw [if_neg (fun hidx => heq (hiff.1 hidx)), if_neg heq]
  · dsimp only
    rw [if_neg hglyph, hslot, if_neg (by omega)]

/-- Of several glyphs for a column the last one stays. -/
theorem IsLinked.placeGlyphs {slots : Array Slot} {glyphFor? : Nat → Option Char}
    (hperm : (columns.map Prod.fst).Perm (List.range width))
    (h : IsLinked slots columns width glyphFor?) (glyphs : List (Nat × Char)) :
    IsLinked (glyphs.foldl (RowMap.placeGlyph width) slots) columns width fun column =>
      (glyphs.reverse.lookup column).or (glyphFor? column) := by
  induction glyphs generalizing slots glyphFor? with
  | nil => exact h
  | cons glyph rest ih =>
    have hlast : (fun column => ((glyph :: rest).reverse.lookup column).or (glyphFor? column)) =
        fun column => (rest.reverse.lookup column).or
          (if column = glyph.1 then some glyph.2 else glyphFor? column) := by
      funext column
      obtain ⟨logical, char⟩ := glyph
      rw [List.reverse_cons, List.lookup_append, Option.or_assoc, List.lookup_cons,
        List.lookup_nil]
      by_cases heq : column = logical
      · simp [heq]
      · have hbeq : (column == logical) = false := by simpa using heq
        simp [hbeq, heq]
    rw [hlast]
    exact ih (h.placeGlyph hperm glyph)

end Ordered

/-! ## Maps with a layout in them -/

/-- The map is for a row of `width` columns and has room for them. -/
structure Fits (map : RowMap) (width : Nat) : Prop where
  width_eq : map.width = width
  width_le : width ≤ map.slots.size
  size_pos : 0 < map.slots.size

/-- The map answers as the layout does. -/
structure Shows (map : RowMap) (layout : RowLayout) : Prop where
  direction : map.direction = layout.direction
  hasForeign : map.hasForeign = layout.hasForeign
  isIdentity : map.isIdentity = layout.isStraight
  toVisual : ∀ column, map.toVisual column = layout.toVisual map.width column
  toLogical : ∀ visual, map.toLogical visual = layout.toLogical map.width visual
  visualDirection : ∀ visual,
    map.visualDirection visual = layout.visualDirection map.width visual
  logicalDirection : ∀ column, map.logicalDirection column =
    layout.visualDirection map.width (layout.toVisual map.width column)
  glyph? : ∀ visual, map.glyph? visual = layout.glyph? map.width visual

/-- Two maps answer every query alike. -/
structure Agree (a b : RowMap) : Prop where
  width : a.width = b.width
  direction : a.direction = b.direction
  hasForeign : a.hasForeign = b.hasForeign
  isIdentity : a.isIdentity = b.isIdentity
  toVisual : ∀ column, a.toVisual column = b.toVisual column
  toLogical : ∀ visual, a.toLogical visual = b.toLogical visual
  visualDirection : ∀ visual, a.visualDirection visual = b.visualDirection visual
  logicalDirection : ∀ column, a.logicalDirection column = b.logicalDirection column
  glyph? : ∀ visual, a.glyph? visual = b.glyph? visual

theorem Agree.refl (map : RowMap) : map.Agree map :=
  ⟨rfl, rfl, rfl, rfl, fun _ => rfl, fun _ => rfl, fun _ => rfl, fun _ => rfl, fun _ => rfl⟩

theorem Shows.agree {a b : RowMap} {layout : RowLayout} (ha : a.Shows layout)
    (hb : b.Shows layout) (hwidth : a.width = b.width) : a.Agree b where
  width := hwidth
  direction := ha.direction.trans hb.direction.symm
  hasForeign := ha.hasForeign.trans hb.hasForeign.symm
  isIdentity := ha.isIdentity.trans hb.isIdentity.symm
  toVisual column := by rw [ha.toVisual, hb.toVisual, hwidth]
  toLogical visual := by rw [ha.toLogical, hb.toLogical, hwidth]
  visualDirection visual := by rw [ha.visualDirection, hb.visualDirection, hwidth]
  logicalDirection column := by rw [ha.logicalDirection, hb.logicalDirection, hwidth]
  glyph? visual := by rw [ha.glyph?, hb.glyph?, hwidth]

@[simp] theorem width_apply (map : RowMap) (layout : RowLayout) :
    (map.apply layout).width = map.width := by
  unfold apply
  cases layout.arrangement <;> rfl

theorem direction_apply (map : RowMap) (layout : RowLayout) :
    (map.apply layout).direction = layout.direction := by
  unfold apply
  cases layout.arrangement <;> rfl

theorem hasForeign_apply (map : RowMap) (layout : RowLayout) :
    (map.apply layout).hasForeign = layout.hasForeign := by
  unfold apply
  cases layout.arrangement <;> rfl

theorem passThrough_apply (map : RowMap) (layout : RowLayout) (column : Int) :
    (map.apply layout).passThrough column =
      RowLayout.straightColumn map.width layout.direction column := by
  unfold passThrough
  rw [width_apply, direction_apply]

theorem isIdentity_apply (map : RowMap) (layout : RowLayout) :
    (map.apply layout).isIdentity = layout.isStraight := by
  unfold apply RowLayout.isStraight
  cases layout.arrangement <;> rfl

theorem size_foldl_placeGlyph (width : Nat) (glyphs : List (Nat × Char)) (slots : Array Slot) :
    (glyphs.foldl (RowMap.placeGlyph width) slots).size = slots.size := by
  induction glyphs generalizing slots with
  | nil => rfl
  | cons glyph rest ih =>
    rw [List.foldl_cons, ih]
    unfold RowMap.placeGlyph
    split
    · split
      · exact Array.size_modify
      · rfl
    · rfl

/-- Laying out neither takes nor gives room. -/
@[simp] theorem size_apply (map : RowMap) (layout : RowLayout) :
    (map.apply layout).slots.size = map.slots.size := by
  unfold apply
  cases layout.arrangement with
  | straight => rfl
  | ordered columns glyphs =>
    dsimp only
    rw [size_foldl_placeGlyph, size_linkFrom]

theorem Fits.apply {map : RowMap} {width : Nat} (h : map.Fits width) (layout : RowLayout) :
    (map.apply layout).Fits width :=
  ⟨(width_apply map layout).trans h.width_eq, by simpa using h.width_le, by simpa using h.size_pos⟩

theorem slot?_outside {map : RowMap} {column : Int}
    (h : ¬(0 ≤ column ∧ column < map.width)) : map.slot? column = none := by
  unfold slot?
  rw [if_pos]
  omega

theorem toVisual_of_isIdentity {map : RowMap} (h : map.isIdentity = true) (column : Int) :
    map.toVisual column = RowLayout.straightColumn map.width map.direction column := by
  unfold toVisual slot?
  rw [if_pos (.inl h)]
  rfl

theorem toLogical_of_isIdentity {map : RowMap} (h : map.isIdentity = true) (visual : Int) :
    map.toLogical visual = RowLayout.straightColumn map.width map.direction visual := by
  unfold toLogical slot?
  rw [if_pos (.inl h)]
  rfl

theorem slot?_inside {map : RowMap} {column : Int} (hidentity : map.isIdentity = false)
    (h : 0 ≤ column ∧ column < map.width) : map.slot? column = map.slots[column.toNat]? := by
  unfold slot?
  rw [if_neg]
  simp only [hidentity, Bool.false_eq_true, false_or]
  omega

/-- The slots of a map with an ordered layout in it. -/
theorem isLinked_apply {map : RowMap} {layout : RowLayout} {columns : List (Nat × Direction)}
    {glyphs : List (Nat × Char)} (harrangement : layout.arrangement = .ordered columns glyphs)
    (hfits : map.width ≤ map.slots.size) (h : layout.IsBijection map.width) :
    IsLinked (map.apply layout).slots columns map.width layout.glyphFor? := by
  have hperm := RowLayout.perm_of_isBijection harrangement h
  have hglyphs : layout.glyphFor? = fun column => (glyphs.reverse.lookup column).or none := by
    funext column
    unfold RowLayout.glyphFor?
    rw [harrangement, Option.or_none]
  rw [hglyphs]
  unfold apply
  rw [harrangement]
  exact (isLinked_linkFrom hperm hfits).placeGlyphs hperm glyphs

section Apply

variable {map : RowMap} {layout : RowLayout} (hfits : map.width ≤ map.slots.size)
  (h : layout.IsBijection map.width)

include hfits h in
/-- The slot that decides about a column holds the entry of the layout for it. -/
theorem slot?_apply (column : Int) : (map.apply layout).slot? column =
    (layout.shown? map.width column).map fun entry =>
      { toVisual := (layout.toVisual map.width column).toNat
        toLogical := entry.1
        direction := entry.2
        glyph := layout.glyphFor? entry.1 } := by
  cases harrangement : layout.arrangement with
  | straight =>
    rw [RowLayout.shown?_straight harrangement]
    unfold apply slot?
    rw [harrangement]
    exact if_pos (Or.inl rfl)
  | ordered columns glyphs =>
    by_cases hin : 0 ≤ column ∧ column < map.width
    · have hidentity : (map.apply layout).isIdentity = false := by
        rw [isIdentity_apply, RowLayout.isStraight, harrangement]
      have hperm := RowLayout.perm_of_isBijection harrangement h
      obtain ⟨entry, hentry⟩ := RowLayout.exists_entry hperm (i := column.toNat) (by omega)
      have hslot := isLinked_apply harrangement hfits h column.toNat entry (by omega) hentry
      rw [slot?_inside hidentity (by rwa [width_apply]), hslot,
        RowLayout.shown?_inside harrangement hin, hentry,
        RowLayout.toVisual_ordered harrangement hin]
      rfl
    · rw [RowLayout.shown?_outside hin, slot?_outside (by rwa [width_apply])]
      rfl

include hfits h in
theorem toVisual_apply (column : Int) :
    (map.apply layout).toVisual column = layout.toVisual map.width column := by
  unfold toVisual
  rw [slot?_apply hfits h]
  cases hshown : layout.shown? map.width column with
  | none => exact (passThrough_apply ..).trans (RowLayout.toVisual_of_shown_none h hshown).symm
  | some entry =>
    have hin := RowLayout.toVisual_inside h (RowLayout.inside_of_shown hshown)
    exact Int.toNat_of_nonneg hin.1

include hfits h in
theorem toLogical_apply (visual : Int) :
    (map.apply layout).toLogical visual = layout.toLogical map.width visual := by
  unfold toLogical RowLayout.toLogical
  rw [slot?_apply hfits h]
  cases layout.shown? map.width visual with
  | none => exact passThrough_apply ..
  | some entry => rfl

include hfits h in
theorem visualDirection_apply (visual : Int) :
    (map.apply layout).visualDirection visual = layout.visualDirection map.width visual := by
  unfold visualDirection RowLayout.visualDirection
  rw [slot?_apply hfits h]
  cases layout.shown? map.width visual with
  | none => exact direction_apply ..
  | some entry => rfl

include hfits h in
theorem logicalDirection_apply (column : Int) : (map.apply layout).logicalDirection column =
    layout.visualDirection map.width (layout.toVisual map.width column) := by
  unfold logicalDirection
  rw [slot?_apply hfits h]
  cases hshown : layout.shown? map.width column with
  | none =>
    have hvisual := RowLayout.shown?_toVisual_of_none h hshown
    unfold RowLayout.visualDirection
    rw [hvisual]
    exact direction_apply ..
  | some entry =>
    have hin := RowLayout.toVisual_inside h (RowLayout.inside_of_shown hshown)
    have hvisual := visualDirection_apply hfits h (layout.toVisual map.width column)
    have hidentity := (isIdentity_apply map layout).trans (RowLayout.isStraight_of_shown hshown)
    unfold visualDirection at hvisual
    rw [slot?_inside hidentity (by rwa [width_apply])] at hvisual
    rw [← hvisual]
    dsimp only [Option.map_some]
    have hlt : (layout.toVisual map.width column).toNat < (map.apply layout).slots.size := by
      rw [size_apply]
      omega
    rw [Array.getElem?_eq_getElem hlt]
    rfl

include hfits h in
theorem glyph?_apply (visual : Int) :
    (map.apply layout).glyph? visual = layout.glyph? map.width visual := by
  unfold glyph? RowLayout.glyph?
  rw [slot?_apply hfits h]
  cases layout.shown? map.width visual <;> rfl

include hfits h in
/-- A map with room for its row answers as the layout that was put into it last, whatever
its slots held before. -/
theorem shows_apply : (map.apply layout).Shows layout where
  direction := direction_apply map layout
  hasForeign := hasForeign_apply map layout
  isIdentity := isIdentity_apply map layout
  toVisual column := by rw [toVisual_apply hfits h, width_apply]
  toLogical visual := by rw [toLogical_apply hfits h, width_apply]
  visualDirection visual := by rw [visualDirection_apply hfits h, width_apply]
  logicalDirection column := by rw [logicalDirection_apply hfits h, width_apply]
  glyph? visual := by rw [glyph?_apply hfits h, width_apply]

end Apply

theorem Fits.shows_apply {map : RowMap} {layout : RowLayout} {width : Nat} (hfits : map.Fits width)
    (h : layout.IsBijection width) : (map.apply layout).Shows layout := by
  obtain rfl := hfits.width_eq
  exact RowMap.shows_apply hfits.width_le h

end RowMap

end BidiViewport
