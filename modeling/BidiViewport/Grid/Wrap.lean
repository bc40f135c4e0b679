import BidiViewport.Grid.Row
import BidiViewport.Text.Blank

/-!
# Wrapping text into rows

A line of text becomes a chain of rows of at most `width` columns, the way a
terminal with automatic wrapping prints it: a wide character that no longer fits
moves to the next row and leaves the end of its row unused; a tab runs to the next
tab stop or to the right margin.  Every row but the last is soft-wrapped.
-/

namespace BidiViewport

namespace Wrap

/-- Where a cluster goes when `row` is being filled: the row it completes, if any,
and the row it is printed on. -/
def place (width : Nat) (row : Row) (cluster : List Char) : Option Row × Row :=
  let fresh : Row := { flags := row.flags }
  let (done, target) := if row.size = width then (some row, fresh) else (none, row)
  let columns := clusterColumns cluster target.size
  if cluster = ['\t'] then
    (done, target.pushCluster cluster (min columns (width - target.size)))
  else if target.size + columns ≤ width then (done, target.pushCluster cluster columns)
  else if width < columns then (done, target.pushCluster cluster width)
  else (some target, fresh.pushCluster cluster columns)

/-- The rows that the remaining clusters make when `row` is being filled. -/
def rowsFrom (width : Nat) (row : Row) : List (List Char) → List Row
  | [] => [row]
  | cluster :: rest =>
    let (done, target) := place width row cluster
    (done.map (·.wrapped true)).toList ++ rowsFrom width target rest

end Wrap

/-- The rows of a line of text at a width (zero counts as one).  Line breaks at the
end are not printed. -/
def wrapText (text : List Char) (width : Nat) (flags : DirectionFlags) : List Row :=
  Wrap.rowsFrom (max 1 width) { flags }
    (clusters (dropEndWhile (fun c => c = '\n' || c = '\r') text))

end BidiViewport
