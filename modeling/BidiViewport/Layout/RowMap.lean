import BidiViewport.Layout.Growth
import BidiViewport.Layout.RowLayout
import BidiViewport.Settings.Limit

/-!
# Row maps

A row map answers where a logical column of a row is drawn and which logical column a
visual column shows.  Columns outside the row are never looked up: they pass through,
or are mirrored about the row when it runs from right to left, so a cursor can step
past either edge.

The storage of a map outlives its layouts.  `RowMap.apply` writes the slots of the
columns of the row, all of them, and no others.
-/

namespace BidiViewport

/-- What a row map stores for a column. -/
structure Slot where
  /-- The visual column of this logical column. -/
  toVisual : Nat := 0
  /-- The logical column of this visual column. -/
  toLogical : Nat := 0
  /-- The direction of this visual column. -/
  direction : Direction := .ltr
  /-- The glyph to draw at this visual column instead of the cell's character. -/
  glyph : Option Char := none
deriving DecidableEq, Inhabited

/-- The columns of a row, mapped between logical and visual order. -/
structure RowMap where
  width : Nat := 0
  /-- The direction of the row's paragraph. -/
  direction : Direction := .ltr
  /-- The row's paragraph has characters that are not on its own level. -/
  hasForeign : Bool := false
  /-- Every column is at its own place, and no slot is looked up. -/
  isIdentity : Bool := true
  slots : Array Slot
deriving DecidableEq

namespace RowMap

/-- A map of no columns with room for some; no room at all counts as one column. -/
def withCapacity (columns : Nat) : RowMap where
  slots := .replicate (max 1 columns) {}

/-- A map of no columns with the usual room. -/
def empty : RowMap :=
  withCapacity defaultReserveColumns

def capacity (map : RowMap) : Nat :=
  map.slots.size

/-- The map at another width.  The storage grows until it fits; what it holds stays. -/
def setWidth (map : RowMap) (width : Nat) : RowMap :=
  { map with
    width
    slots := map.slots ++
      Array.replicate (grownCapacity width map.capacity - map.capacity) ({} : Slot) }

/-- The slot that decides about a column, for columns of the row. -/
def slot? (map : RowMap) (column : Int) : Option Slot :=
  if map.isIdentity ∨ column < 0 ∨ (map.width : Int) ≤ column then none
  else map.slots[column.toNat]?

/-- Columns that no slot decides about. -/
def passThrough (map : RowMap) (column : Int) : Int :=
  RowLayout.straightColumn map.width map.direction column

def toVisual (map : RowMap) (column : Int) : Int :=
  match map.slot? column with
  | some slot => slot.toVisual
  | none => map.passThrough column

def toLogical (map : RowMap) (column : Int) : Int :=
  match map.slot? column with
  | some slot => slot.toLogical
  | none => map.passThrough column

def visualDirection (map : RowMap) (column : Int) : Direction :=
  match map.slot? column with
  | some slot => slot.direction
  | none => map.direction

/-- The direction of a logical column, which is that of the visual column it is
drawn at. -/
def logicalDirection (map : RowMap) (column : Int) : Direction :=
  match map.slot? column with
  | some slot => (map.slots[slot.toVisual]?.getD {}).direction
  | none => map.direction

/-- The glyph to draw at a visual column instead of the cell's character. -/
def glyph? (map : RowMap) (column : Int) : Option Char :=
  (map.slot? column).bind (·.glyph)

/-- Slot `visual` shows the logical column `column`, whose slot points back. -/
def link (slots : Array Slot) (visual : Nat) (column : Nat × Direction) : Array Slot :=
  (slots.modify visual fun slot =>
      { slot with toLogical := column.1, direction := column.2, glyph := none }).modify
    column.1 fun slot => { slot with toVisual := visual }

/-- The slots from `visual` on show these columns, one after the other. -/
def linkFrom (slots : Array Slot) (visual : Nat) : List (Nat × Direction) → Array Slot
  | [] => slots
  | column :: rest => linkFrom (link slots visual column) (visual + 1) rest

/-- A glyph for a logical column of a row of `width` columns goes where the column is
drawn; other columns have none. -/
def placeGlyph (width : Nat) (slots : Array Slot) (glyph : Nat × Char) : Array Slot :=
  if glyph.1 < width then
    match slots[glyph.1]? with
    | some slot => slots.modify slot.toVisual fun slot => { slot with glyph := some glyph.2 }
    | none => slots
  else slots

def apply (map : RowMap) (layout : RowLayout) : RowMap :=
  match layout.arrangement with
  | .straight =>
    { map with direction := layout.direction, hasForeign := layout.hasForeign, isIdentity := true }
  | .ordered columns glyphs =>
    { map with
      direction := layout.direction
      hasForeign := layout.hasForeign
      isIdentity := false
      slots := glyphs.foldl (placeGlyph map.width) (linkFrom map.slots 0 columns) }

end RowMap

end BidiViewport
