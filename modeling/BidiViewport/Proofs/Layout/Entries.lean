import Mathlib.Data.List.TakeDrop
import BidiViewport.Proofs.Layout.Answers
import BidiViewport.Proofs.Layout.Placement
import BidiViewport.Proofs.Shaping.Joins

/-!
# Entries of layouts

What a layout holds, whatever the classifier does: an order that is no permutation of the
characters still has no entry outside the row (`Frame.isInside_of_mem_layouts`), and all glyphs
are presentation forms (`Frame.exists_form_of_mem_glyphs`).

So a map that a layout was put into never leads out of its row (`RowMap.toLogical_inside`), even
if it is no bijection.
-/

namespace BidiViewport

namespace RowLayout

/-- Every visual column has an entry, and every entry is a column of the row. -/
def IsInside (layout : RowLayout) (width : Nat) : Prop :=
  match layout.arrangement with
  | .straight => True
  | .ordered columns _ => width ≤ columns.length ∧ ∀ column ∈ columns, column.1 < width

/-- The glyphs that the layout holds, with their columns. -/
def glyphs (layout : RowLayout) : List (Nat × Char) :=
  match layout.arrangement with
  | .straight => []
  | .ordered _ glyphs => glyphs

theorem IsBijection.isInside {layout : RowLayout} {width : Nat} (h : layout.IsBijection width) :
    layout.IsInside width := by
  unfold IsInside
  split
  · trivial
  · next harrangement =>
    have hperm := perm_of_isBijection harrangement h
    refine ⟨Nat.le_of_eq (length_of_perm hperm).symm, ?_⟩
    intro column hcolumn
    exact List.mem_range.1 (hperm.mem_iff.1 (List.mem_map_of_mem hcolumn))

theorem glyphFor?_mem {layout : RowLayout} {column : Nat} {glyph : Char}
    (h : layout.glyphFor? column = some glyph) : (column, glyph) ∈ layout.glyphs := by
  unfold glyphFor? at h
  unfold glyphs
  cases harrangement : layout.arrangement with
  | straight =>
    rw [harrangement] at h
    cases h
  | ordered columns glyphs =>
    rw [harrangement] at h
    obtain ⟨_, _, hsplit, -⟩ := List.lookup_eq_some_iff.1 h
    refine List.mem_reverse.1 ?_
    rw [hsplit]
    exact List.mem_append_right _ List.mem_cons_self

end RowLayout

namespace RowMap

section Glyphs

variable {α : Type} {f : Slot → α}
  (hf : ∀ (slot : Slot) (glyph : Option Char), f { slot with glyph } = f slot)

include hf in
/-- Placing a glyph leaves everything else in a slot as it is. -/
theorem map_placeGlyph (width : Nat) (slots : Array Slot) (glyph : Nat × Char) (i : Nat) :
    (placeGlyph width slots glyph)[i]?.map f = slots[i]?.map f := by
  unfold placeGlyph
  split
  · split
    · rw [Array.getElem?_modify]
      split
      · rw [Option.map_map]
        exact congrArg (slots[i]?.map ·) (funext fun slot => hf slot _)
      · rfl
    · rfl
  · rfl

include hf in
theorem map_placeGlyphs (width : Nat) (slots : Array Slot) (glyphs : List (Nat × Char)) (i : Nat) :
    (glyphs.foldl (placeGlyph width) slots)[i]?.map f = slots[i]?.map f := by
  induction glyphs generalizing slots with
  | nil => rfl
  | cons glyph rest ih => rw [List.foldl_cons, ih, map_placeGlyph hf]

end Glyphs

/-- A slot of an ordered row has the entry of its column, and no glyph if the layout has none,
whatever it held before. -/
theorem exists_slot {map : RowMap} {layout : RowLayout} {columns : List (Nat × Direction)}
    {glyphs : List (Nat × Char)} {width visual : Nat} {entry : Nat × Direction}
    (harrangement : layout.arrangement = .ordered columns glyphs) (hfits : map.Fits width)
    (hlt : visual < width) (hentry : columns[visual]? = some entry) :
    ∃ slot, (map.apply layout).slot? visual = some slot ∧ slot.toLogical = entry.1 ∧
      (glyphs = [] → slot.glyph = none) := by
  have hidentity : (map.apply layout).isIdentity = false := by
    rw [isIdentity_apply, RowLayout.isStraight, harrangement]
  have hin : 0 ≤ (visual : Int) ∧ (visual : Int) < (map.apply layout).width := by
    rw [width_apply, hfits.width_eq]
    omega
  have hslots : (map.apply layout).slots =
      glyphs.foldl (placeGlyph map.width) (linkFrom map.slots 0 columns) := by
    unfold apply
    rw [harrangement]
  have hroom : 0 + visual < map.slots.size := by
    rw [Nat.zero_add]
    exact Nat.lt_of_lt_of_le hlt hfits.width_le
  have hlinked := linkFrom_entry map.slots hentry hroom
  rw [Nat.zero_add] at hlinked
  obtain ⟨linked, hslot, hfields⟩ := Option.map_eq_some_iff.1 hlinked
  obtain ⟨hcolumn, hrest⟩ := Prod.mk.inj hfields
  have hplaced := map_placeGlyphs (f := Slot.toLogical) (fun _ _ => rfl) map.width
    (linkFrom map.slots 0 columns) glyphs visual
  rw [hslot] at hplaced
  obtain ⟨slot, hslot', hsame⟩ := Option.map_eq_some_iff.1 hplaced
  refine ⟨slot, ?_, hsame.trans hcolumn, ?_⟩
  · rw [slot?_inside hidentity hin, Int.toNat_natCast, hslots, hslot']
  · rintro rfl
    obtain rfl : linked = slot := Option.some.inj (hslot.symm.trans hslot')
    exact congrArg Prod.snd hrest

/-- Each visual column leads to the column that the layout has there, also if the order of the
row leaves columns out. -/
theorem toLogical_apply_of_isInside {map : RowMap} {layout : RowLayout} {width : Nat}
    (hfits : map.Fits width) (hinside : layout.IsInside width) (visual : Int) :
    (map.apply layout).toLogical visual = layout.toLogical width visual := by
  have hthrough := passThrough_apply map layout visual
  rw [hfits.width_eq] at hthrough
  unfold toLogical RowLayout.toLogical
  cases harrangement : layout.arrangement with
  | straight =>
    have hidentity : (map.apply layout).isIdentity = true := by
      rw [isIdentity_apply, RowLayout.isStraight, harrangement]
    have hslot : (map.apply layout).slot? visual = none := if_pos (.inl hidentity)
    rw [hslot, RowLayout.shown?_straight harrangement]
    exact hthrough
  | ordered columns glyphs =>
    by_cases hin : 0 ≤ visual ∧ visual < width
    · unfold RowLayout.IsInside at hinside
      rw [harrangement] at hinside
      obtain ⟨i, rfl⟩ := Int.eq_ofNat_of_zero_le hin.1
      have hlt : i < width := Int.ofNat_lt.1 hin.2
      have hentry := List.getElem?_eq_getElem (Nat.lt_of_lt_of_le hlt hinside.1)
      obtain ⟨slot, hslot, hcolumn, -⟩ := exists_slot harrangement hfits hlt hentry
      rw [hslot, RowLayout.shown?_inside harrangement hin, Int.toNat_natCast, hentry]
      exact congrArg Nat.cast hcolumn
    · have hslot : (map.apply layout).slot? visual = none := by
        refine slot?_outside ?_
        rwa [width_apply, hfits.width_eq]
      rw [hslot, RowLayout.shown?_outside hin]
      exact hthrough

/-- A map leads from each visual column to a column of its row. -/
theorem toLogical_inside {map : RowMap} {layout : RowLayout} {width visual : Nat}
    (hfits : map.Fits width) (hinside : layout.IsInside width) (hlt : visual < width) :
    0 ≤ (map.apply layout).toLogical visual ∧ (map.apply layout).toLogical visual < width := by
  rw [toLogical_apply_of_isInside hfits hinside]
  unfold RowLayout.toLogical
  cases harrangement : layout.arrangement with
  | straight =>
    rw [RowLayout.shown?_straight harrangement]
    exact RowLayout.straightColumn_inside (by omega)
  | ordered columns glyphs =>
    unfold RowLayout.IsInside at hinside
    rw [harrangement] at hinside
    obtain ⟨hlength, hentries⟩ := hinside
    have hentry : columns[visual]? = some columns[visual] := List.getElem?_eq_getElem _
    have hbound := hentries _ (List.mem_of_getElem? hentry)
    rw [RowLayout.shown?_inside harrangement (by omega), Int.toNat_natCast, hentry]
    dsimp only
    omega

/-- A layout without glyphs clears all glyphs that earlier layouts left in the row. -/
theorem glyph?_eq_none {map : RowMap} {layout : RowLayout} {width : Nat} (hfits : map.Fits width)
    (hinside : layout.IsInside width) (hglyphs : layout.glyphs = []) (visual : Int) :
    (map.apply layout).glyph? visual = none := by
  unfold glyph?
  cases harrangement : layout.arrangement with
  | straight =>
    have hidentity : (map.apply layout).isIdentity = true := by
      rw [isIdentity_apply, RowLayout.isStraight, harrangement]
    unfold slot?
    rw [if_pos (.inl hidentity)]
    rfl
  | ordered columns glyphs =>
    unfold RowLayout.IsInside at hinside
    unfold RowLayout.glyphs at hglyphs
    rw [harrangement] at hinside hglyphs
    by_cases hin : 0 ≤ visual ∧ visual < (map.apply layout).width
    · obtain ⟨i, rfl⟩ := Int.eq_ofNat_of_zero_le hin.1
      have hlt : i < width := by
        rw [width_apply, hfits.width_eq] at hin
        omega
      have hentry := List.getElem?_eq_getElem (Nat.lt_of_lt_of_le hlt hinside.1)
      obtain ⟨slot, hslot, -, hnone⟩ := exists_slot harrangement hfits hlt hentry
      rw [hslot]
      exact hnone hglyphs
    · rw [slot?_outside hin]
      rfl

end RowMap

namespace Line

theorem fst_lt_used_of_mem_content {width : Nat} {row : Row} {order : LineOrder}
    {column : Nat × Direction} (h : column ∈ (ofRow width row).content order) :
    column.1 < (ofRow width row).used := by
  obtain ⟨i, -, hspan⟩ := List.mem_flatMap.1 h
  cases hi : (ofRow width row).spans[i]? with
  | none =>
    rw [hi] at hspan
    cases hspan
  | some span =>
    rw [hi] at hspan
    have hextent := (span.drawn_fst_perm _).mem_iff.1 (List.mem_map_of_mem hspan)
    have hmem : span ∈ (ofRow width row).spans.toList :=
      Array.mem_toList_iff.2 (Array.mem_of_getElem? hi)
    have hused := List.mem_flatMap_of_mem hmem hextent
    rw [flatMap_extent_ofRow] at hused
    exact List.mem_range.1 hused

theorem fst_lt_of_mem_columns {width : Nat} {row : Row} {direction : Direction} {order : LineOrder}
    {column : Nat × Direction} (h : column ∈ (ofRow width row).columns width direction order) :
    column.1 < width := by
  rcases List.mem_append.1 h with hleft | hright
  · rcases List.mem_append.1 hleft with hpadding | hcontent
    · cases direction with
      | ltr => cases hpadding
      | rtl =>
        obtain ⟨visual, hvisual, rfl⟩ := List.mem_map.1 hpadding
        have hlt := List.mem_range.1 hvisual
        dsimp only
        omega
    · exact Nat.lt_of_lt_of_le (fst_lt_used_of_mem_content hcontent) (used_ofRow_le width row)
  · obtain ⟨visual, hvisual, rfl⟩ := List.mem_map.1 hright
    have hin := List.mem_range'_1.1 hvisual
    dsimp only
    omega

/-- No order leads out of the row. -/
theorem isInside_layout {width start : Nat} {row : Row} {analysis : Analysis}
    {glyphs : List (Nat × Char)} {layout : RowLayout}
    (h : (ofRow width row).layout width analysis start glyphs = .ok layout) :
    layout.IsInside width := by
  obtain ⟨-, rfl⟩ | ⟨-, rfl⟩ | ⟨order, -, -, rfl⟩ := layout_cases h
  · trivial
  · exact RowLayout.IsBijection.isInside (RowLayout.straightColumns_perm width _)
  · refine ⟨?_, fun column => fst_lt_of_mem_columns⟩
    unfold columns
    dsimp only
    rw [List.length_append, List.length_map, List.length_range']
    omega

/-- The glyphs of a line are glyphs of its paragraph. -/
theorem glyphs_of_mem_layoutsFrom {width start : Nat} {analysis : Analysis}
    {glyphs : List (Nat × Char)} {lines : List Line} {layout : RowLayout}
    (h : .ok layout ∈ layoutsFrom width analysis start glyphs lines) :
    ∀ placed ∈ layout.glyphs, ∃ i, (i, placed.2) ∈ glyphs := by
  induction lines generalizing start glyphs with
  | nil => cases h
  | cons line rest ih =>
    intro placed hplaced
    rw [layoutsFrom, List.span_eq_takeWhile_dropWhile] at h
    rcases List.mem_cons.1 h with hown | hlater
    · have hcolumn : placed ∈ line.columnGlyphs start
          (glyphs.takeWhile (·.1 < start + line.spans.size)) := by
        obtain ⟨-, rfl⟩ | ⟨-, rfl⟩ | ⟨order, -, -, rfl⟩ := layout_cases hown.symm
        · cases hplaced
        · exact hplaced
        · exact hplaced
      obtain ⟨⟨i, glyph⟩, hmem, hspan⟩ := List.mem_filterMap.1 hcolumn
      obtain ⟨span, -, rfl⟩ := Option.map_eq_some_iff.1 hspan
      exact ⟨i, (List.takeWhile_sublist _).subset hmem⟩
    · obtain ⟨i, hi⟩ := ih hlater placed hplaced
      exact ⟨i, (List.dropWhile_sublist _).subset hi⟩

end Line

namespace Frame

variable {frame : Frame} {source : RowSource} {row : Nat} {layout : RowLayout}

theorem isInside_of_mem_layouts (h : layout ∈ (frame.layoutParagraph source row).layouts) :
    layout.IsInside frame.width := by
  obtain ⟨i, hi⟩ := List.mem_iff_getElem?.1 h
  cases hverdict : (frame.prepare source row).verdict with
  | straight direction cause =>
    obtain rfl := getElem?_layouts_straight hverdict hi
    trivial
  | analysed lines analysis =>
    obtain ⟨line, own, hline, rfl⟩ := exists_line_of_layout hverdict hi
    obtain ⟨-, rfl, -⟩ := analysed_of_prepare hverdict
    rw [List.getElem?_map] at hline
    obtain ⟨content, -, rfl⟩ := Option.map_eq_some_iff.1 hline
    generalize hresult : (Line.ofRow frame.width content).layout frame.width analysis _ own = result
    cases result with
    | ok layout => exact Line.isInside_layout hresult
    | error error => trivial

/-- The glyphs of a row are glyphs of its paragraph. -/
theorem exists_mem_glyphs (h : layout ∈ (frame.layoutParagraph source row).layouts) :
    ∀ placed ∈ layout.glyphs, ∃ text analysis i, (i, placed.2) ∈ frame.glyphs text analysis := by
  intro placed hplaced
  cases hverdict : (frame.prepare source row).verdict with
  | straight direction cause =>
    rw [layouts_straight hverdict] at h
    obtain ⟨_, _, rfl⟩ := List.mem_map.1 h
    cases hplaced
  | analysed lines analysis =>
    rw [layouts_analysed hverdict] at h
    obtain ⟨result, hresult, rfl⟩ := List.mem_map.1 h
    cases result with
    | error error => cases hplaced
    | ok layout =>
      obtain ⟨i, hi⟩ := Line.glyphs_of_mem_layoutsFrom hresult placed hplaced
      exact ⟨_, _, i, hi⟩

/-- Without shaping there are no glyphs. -/
theorem glyphs_eq_nil (hshaping : frame.shaping = false)
    (h : layout ∈ (frame.layoutParagraph source row).layouts) : layout.glyphs = [] := by
  refine List.eq_nil_iff_forall_not_mem.2 ?_
  intro placed hplaced
  obtain ⟨text, analysis, i, hi⟩ := exists_mem_glyphs h placed hplaced
  unfold glyphs at hi
  rw [hshaping] at hi
  cases hi

end Frame

end BidiViewport
