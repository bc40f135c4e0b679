import BidiViewport.Direction
import BidiViewport.Grid.Cell
import BidiViewport.Text.Cluster
import BidiViewport.Text.Width

/-!
# Grid rows

A row is a sequence of cells, the direction switches it was written under, and
whether its paragraph continues on the next row.  Clusters are pushed at the end:
the first character is the base of the leader cell and the others are its marks.
-/

namespace BidiViewport

structure Row where
  cells : Array Cell := #[]
  /-- The paragraph continues on the next row. -/
  softWrapped : Bool := false
  flags : DirectionFlags := {}
deriving DecidableEq, Inhabited

namespace Row

def size (row : Row) : Nat :=
  row.cells.size

def cell? (row : Row) (column : Nat) : Option Cell :=
  row.cells[column]?

/-- The column of the leader that a column belongs to: its own, or the nearest one on the
left when the cell is a fragment. -/
def leaderColumn? (row : Row) : Nat → Option Nat
  | 0 => (row.cell? 0).bind fun cell => if cell.isFragment then none else some 0
  | column + 1 => (row.cell? (column + 1)).bind fun cell =>
    if cell.isFragment then row.leaderColumn? column else some (column + 1)

def push (row : Row) (cell : Cell) : Row :=
  { row with cells := row.cells.push cell }

/-- The row with a cluster of the given width at its end; a cluster without
characters leaves it alone. -/
def pushCluster (row : Row) (cluster : List Char) (columns : Nat) : Row :=
  match cluster with
  | [] => row
  | base :: marks =>
    { row with
      cells := row.cells ++ Cell.group base marks (max 1 (min columns Cell.maxColumns)) }

/-- The row with a cluster in its natural width at its end. -/
def pushNatural (row : Row) (cluster : List Char) : Row :=
  row.pushCluster cluster (clusterColumns cluster row.size)

/-- One row that holds a whole text, however long. -/
def ofText (text : List Char) (flags : DirectionFlags) : Row :=
  (clusters text).foldl pushNatural { flags }

/-- The row marked as continued, or not, on the next one. -/
def wrapped (row : Row) (softWrapped : Bool) : Row :=
  { row with softWrapped }

end Row

end BidiViewport
