import BidiViewport.Proofs.Layout.Entries
import BidiViewport.Proofs.Layout.InStep
import BidiViewport.Proofs.Layout.SingleDirection

/-!
# Glyphs and places

Glyphs are put into a row after its columns.  Two layouts that differ in their glyphs only
(`RowLayout.SamePlaces`) draw every column in the same place.

* In one storage this holds whatever the classifier does: placing a glyph writes the glyph of a
  slot and nothing else (`RowLayout.SamePlaces.placesAs_apply`).
* In two storages with different pasts it holds for layouts that pass the check of the map
  (`RowLayout.SamePlaces.placesAs`).

Shaping also decides whether the columns of a paragraph on one level are spelt out, so the layouts
need not be of the same kind.
-/

namespace BidiViewport

/-! ## Slots without their glyphs -/

/-- What a slot says of places. -/
def Slot.place (slot : Slot) : Nat × Nat × Direction :=
  (slot.toVisual, slot.toLogical, slot.direction)

namespace RowMap

section SameSlots

variable {a b : RowMap} (hwidth : a.width = b.width) (hidentity : a.isIdentity = b.isIdentity)
  (hslots : ∀ i : Nat, a.slots[i]?.map Slot.place = b.slots[i]?.map Slot.place)

include hwidth hidentity hslots in
theorem map_place_slot? (column : Int) :
    (a.slot? column).map Slot.place = (b.slot? column).map Slot.place := by
  unfold slot?
  rw [hwidth, hidentity]
  split
  · rfl
  · exact hslots _

/-- The slots of two rows that say the same of places are both there or both missing. -/
theorem place_cases {x y : Option Slot} (h : x.map Slot.place = y.map Slot.place) :
    (x = none ∧ y = none) ∨ ∃ s t, x = some s ∧ y = some t ∧ s.toVisual = t.toVisual ∧
      s.toLogical = t.toLogical ∧ s.direction = t.direction := by
  cases x with
  | none =>
    cases y with
    | none => exact .inl ⟨rfl, rfl⟩
    | some t => cases h
  | some s =>
    cases y with
    | none => cases h
    | some t =>
      obtain ⟨hvisual, hrest⟩ := Prod.mk.inj (Option.some.inj h)
      obtain ⟨hlogical, hdirection⟩ := Prod.mk.inj hrest
      exact .inr ⟨s, t, rfl, rfl, hvisual, hlogical, hdirection⟩

include hwidth hidentity hslots in
/-- Maps whose slots differ in their glyphs only draw every column in the same place. -/
theorem placesAs_of_slots (hdirection : a.direction = b.direction) : a.PlacesAs b := by
  have hpass (column : Int) : a.passThrough column = b.passThrough column := by
    unfold passThrough
    rw [hwidth, hdirection]
  have hslot (column : Int) := place_cases (map_place_slot? hwidth hidentity hslots column)
  refine ⟨?_, ?_, ?_, ?_⟩
  · intro column
    unfold toVisual
    obtain ⟨ha, hb⟩ | ⟨s, t, ha, hb, hvisual, -, -⟩ := hslot column
    · simp only [ha, hb, hpass]
    · simp only [ha, hb, hvisual]
  · intro visual
    unfold toLogical
    obtain ⟨ha, hb⟩ | ⟨s, t, ha, hb, -, hlogical, -⟩ := hslot visual
    · simp only [ha, hb, hpass]
    · simp only [ha, hb, hlogical]
  · intro visual
    unfold visualDirection
    obtain ⟨ha, hb⟩ | ⟨s, t, ha, hb, -, -, hdrawn⟩ := hslot visual
    · simp only [ha, hb, hdirection]
    · simp only [ha, hb, hdrawn]
  · intro column
    unfold logicalDirection
    obtain ⟨ha, hb⟩ | ⟨s, t, ha, hb, hvisual, -, -⟩ := hslot column
    · simp only [ha, hb, hdirection]
    · simp only [ha, hb, hvisual]
      obtain ⟨ha', hb'⟩ | ⟨s', t', ha', hb', -, -, hdrawn⟩ := place_cases (hslots t.toVisual)
      · rw [ha', hb']
      · rw [ha', hb']
        exact hdrawn

end SameSlots

end RowMap

/-! ## Layouts that differ in their glyphs -/

namespace RowLayout

/-- The layouts have the same columns in the same places.  What is at its own place may be spelt
out in one of them only. -/
structure SamePlaces (a b : RowLayout) (width : Nat) : Prop where
  direction : a.direction = b.direction
  hasForeign : a.hasForeign = b.hasForeign
  places : (a.IsPlain width ∧ b.IsPlain width) ∨ ∃ columns glyphs glyphs',
    a.arrangement = .ordered columns glyphs ∧ b.arrangement = .ordered columns glyphs'

namespace SamePlaces

variable {a b : RowLayout} {width : Nat}

theorem isBijection (h : a.SamePlaces b width) (ha : a.IsBijection width) :
    b.IsBijection width := by
  rcases h.places with ⟨-, hplain⟩ | ⟨columns, glyphs, glyphs', hcolumns, hcolumns'⟩
  · exact hplain.isBijection
  · unfold IsBijection at ha ⊢
    rw [hcolumns] at ha
    rw [hcolumns']
    exact ha

/-- In the same storage the places are the same, even those of an order that is no bijection. -/
theorem placesAs_apply (h : a.SamePlaces b width) {map : RowMap} (hfits : map.Fits width) :
    (map.apply a).PlacesAs (map.apply b) := by
  rcases h.places with ⟨ha, hb⟩ | ⟨columns, glyphs, glyphs', ha, hb⟩
  · have hwidth := (hfits.apply a).width_eq
    have hwidth' := (hfits.apply b).width_eq
    refine (hfits.shows_apply ha.isBijection).placesAs (hfits.shows_apply hb.isBijection)
      (hwidth.trans hwidth'.symm) h.direction ?_ ?_
    · rwa [hwidth]
    · rwa [hwidth']
  · unfold RowMap.apply
    rw [ha, hb]
    refine RowMap.placesAs_of_slots rfl rfl ?_ h.direction
    intro i
    dsimp only
    rw [RowMap.map_placeGlyphs (f := Slot.place) (fun _ _ => rfl),
      RowMap.map_placeGlyphs (f := Slot.place) (fun _ _ => rfl)]

/-- Maps that show the layouts draw every column in the same place. -/
theorem placesAs (h : a.SamePlaces b width) {map map' : RowMap} (ha : map.Shows a)
    (hb : map'.Shows b) (hwidth : map.width = width) (hwidth' : map'.width = width) :
    map.PlacesAs map' := by
  rcases h.places with ⟨hplain, hplain'⟩ | ⟨columns, glyphs, glyphs', hcolumns, hcolumns'⟩
  · exact ha.placesAs hb (hwidth.trans hwidth'.symm) h.direction (hwidth ▸ hplain)
      (hwidth' ▸ hplain')
  · have hshown (visual : Int) : a.shown? width visual = b.shown? width visual := by
      unfold shown?
      rw [hcolumns, hcolumns']
    have hvisual (column : Int) : a.toVisual width column = b.toVisual width column := by
      unfold toVisual
      rw [hcolumns, hcolumns', h.direction]
    have hdirection (visual : Int) :
        a.visualDirection width visual = b.visualDirection width visual := by
      unfold visualDirection
      rw [hshown, h.direction]
    refine ⟨?_, ?_, ?_, ?_⟩
    · intro column
      rw [ha.toVisual, hb.toVisual, hwidth, hwidth', hvisual]
    · intro visual
      rw [ha.toLogical, hb.toLogical, hwidth, hwidth']
      unfold toLogical
      rw [hshown, h.direction]
    · intro visual
      rw [ha.visualDirection, hb.visualDirection, hwidth, hwidth', hdirection]
    · intro column
      rw [ha.logicalDirection, hb.logicalDirection, hwidth, hwidth', hvisual, hdirection]

end SamePlaces

end RowLayout

/-- Glyphs do not move the columns of a line, and do not decide whether it has an order. -/
theorem Line.samePlaces_layout (line : Line) (width start : Nat) (analysis : Analysis)
    (glyphs glyphs' : List (Nat × Char)) :
    (Frame.orElseStraight analysis (line.layout width analysis start glyphs)).SamePlaces
      (Frame.orElseStraight analysis (line.layout width analysis start glyphs')) width := by
  have hplain (own : List (Nat × Char)) : RowLayout.IsPlain
      { direction := analysis.direction
        arrangement :=
          if own.isEmpty then .straight
          else .ordered (RowLayout.straightColumns width analysis.direction) own } width := by
    by_cases hown : own.isEmpty = true
    · exact .inl (if_pos hown)
    · exact .inr ⟨own, if_neg hown⟩
  unfold layout
  by_cases hsingle : analysis.isSingle = true
  · rw [if_pos hsingle, if_pos hsingle]
    exact ⟨rfl, rfl, .inl ⟨hplain glyphs, hplain glyphs'⟩⟩
  · rw [if_neg hsingle, if_neg hsingle]
    cases analysis.reorder start (start + line.spans.size) with
    | error error => exact ⟨rfl, rfl, .inl ⟨.inl rfl, .inl rfl⟩⟩
    | ok order => exact ⟨rfl, rfl, .inr ⟨_, _, _, rfl, rfl⟩⟩

namespace Frame

variable {a b : Frame} {source : RowSource} {head i : Nat} {layout layout' : RowLayout}

/-- Two passes with the same analyses differ in their glyphs only. -/
theorem InStep.samePlaces (h : a.InStep b source id)
    (hlayout : (a.layoutParagraph source head).layouts[i]? = some layout)
    (hlayout' : (b.layoutParagraph source head).layouts[i]? = some layout') :
    layout.SamePlaces layout' a.width := by
  cases hverdict : (a.prepare source head).verdict with
  | straight direction cause =>
    obtain rfl := getElem?_layouts_straight hverdict hlayout
    obtain rfl := getElem?_layouts_straight (h.verdict_straight hverdict) hlayout'
    exact ⟨rfl, rfl, .inl ⟨.inl rfl, .inl rfl⟩⟩
  | analysed lines analysis =>
    obtain ⟨line, own, hline, rfl⟩ := exists_line_of_layout hverdict hlayout
    obtain ⟨line', own', hline', rfl⟩ :=
      exists_line_of_layout (h.verdict_analysed hverdict) hlayout'
    obtain rfl := Option.some.inj (hline.symm.trans hline')
    rw [← h.sameWindow.width]
    exact line.samePlaces_layout _ _ _ _ _

end Frame

end BidiViewport
