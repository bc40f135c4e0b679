import BidiViewport.Direction

/-!
# The layout of a row

What a layout pass decides about one row, apart from the storage that holds it: the
direction of its paragraph, whether the paragraph mixes directions, and where its
columns are drawn.
-/

namespace BidiViewport

/-- Where the columns of a row are drawn. -/
inductive Arrangement
  /-- Every column at its own place, counted from the side where the text begins. -/
  | straight
  /-- The logical column and the direction of each visual column, from left to right,
  and the glyphs to draw for some logical columns. -/
  | ordered (columns : List (Nat × Direction)) (glyphs : List (Nat × Char))
deriving DecidableEq

structure RowLayout where
  direction : Direction
  /-- The paragraph has characters that are not on its own level. -/
  hasForeign : Bool := false
  arrangement : Arrangement := .straight
deriving DecidableEq

namespace RowLayout

/-- The logical column of a visual column, or the reverse, in a straight row. -/
def straightColumn (width : Nat) (direction : Direction) (column : Int) : Int :=
  match direction with
  | .ltr => column
  | .rtl => width - 1 - column

/-- The columns of a straight row, spelt out. -/
def straightColumns (width : Nat) (direction : Direction) : List (Nat × Direction) :=
  (List.range width).map fun visual =>
    (match direction with
      | .ltr => visual
      | .rtl => width - 1 - visual, direction)

@[simp] theorem straightColumn_straightColumn (width : Nat) (direction : Direction)
    (column : Int) :
    straightColumn width direction (straightColumn width direction column) = column := by
  cases direction with
  | ltr => rfl
  | rtl =>
    simp only [straightColumn]
    omega

end RowLayout

end BidiViewport
