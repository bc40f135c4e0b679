/-!
# Grid cells

Every printed character owns one leader cell.  A character of `n` columns is
followed by `n - 1` fragments, which carry no glyph.
-/

namespace BidiViewport

/-- One cell of a terminal row.  `columns` is the width of the character the cell
belongs to. -/
inductive Cell
  | leader (base : Char) (marks : List Char) (columns : Nat)
  | fragment (columns : Nat)
deriving DecidableEq, Inhabited

namespace Cell

/-- The widest character a cell can describe. -/
def maxColumns : Nat := 255

/-- A leader is at least one column wide. -/
def ofChar (base : Char) (marks : List Char) (columns : Nat) : Cell :=
  .leader base marks (max 1 columns)

/-- A continuation of a leader that is at least one column wide. -/
def continuation (columns : Nat) : Cell :=
  .fragment (max 1 columns)

def isFragment : Cell → Bool
  | leader .. => false
  | fragment _ => true

/-- The cells of a character of `columns` columns: its leader and the fragments
that fill the rest. -/
def group (base : Char) (marks : List Char) (columns : Nat) : List Cell :=
  .leader base marks columns :: List.replicate (columns - 1) (.fragment columns)

theorem length_group {base : Char} {marks : List Char} {columns : Nat} (h : 0 < columns) :
    (group base marks columns).length = columns := by
  simp [group]
  omega

end Cell

end BidiViewport
