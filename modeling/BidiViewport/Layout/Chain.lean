import BidiViewport.Grid.Scrollback

/-!
# Chains of rows

A paragraph is a chain of soft-wrapped rows.  A viewport may begin or end inside one, so
chains are read upwards to find where they begin and downwards to their end, in both
directions at most as many rows as a paragraph may have.  Every function here also
lists the rows that it reads.
-/

namespace BidiViewport

/-- The row continues on the next one. -/
def RowSource.isWrapped (source : RowSource) (row : Nat) : Bool :=
  (source.rowAt row).any (·.softWrapped)

namespace Chain

/-- The first row of the chain of `row`, when it is found within `limit` steps. -/
def head? (source : RowSource) : (limit row : Nat) → Option Nat
  | 0, _ => none
  | limit + 1, row =>
    if row ≤ source.firstRow then some row
    else if source.isWrapped (row - 1) then head? source limit (row - 1)
    else some row

/-- The rows read to find the first row of the chain of `row`. -/
def headReads (source : RowSource) : (limit row : Nat) → List Nat
  | 0, _ => []
  | limit + 1, row =>
    if row ≤ source.firstRow then []
    else (row - 1) :: if source.isWrapped (row - 1) then headReads source limit (row - 1) else []

/-- A chain read from one of its rows downwards. -/
structure Tail where
  rows : List Row
  /-- There are more rows than the limit. -/
  isOverlong : Bool
  reads : List Nat

/-- The rest of the chain from `row` on, at most `limit` rows.  A missing row ends it. -/
def tail (source : RowSource) : (limit row : Nat) → Tail
  | 0, row => { rows := [], isOverlong := (source.rowAt row).isSome, reads := [row] }
  | limit + 1, row =>
    match source.rowAt row with
    | none => { rows := [], isOverlong := false, reads := [row] }
    | some content =>
      if content.softWrapped then
        let rest := tail source limit (row + 1)
        { rest with rows := content :: rest.rows, reads := row :: rest.reads }
      else { rows := [content], isOverlong := false, reads := [row] }

/-- The rows from `row` on up to the end of the chain, but at most `most` of them.
Each is read to see whether the chain goes on. -/
def walk (source : RowSource) : (most row : Nat) → List Nat
  | 0, _ => []
  | most + 1, row =>
    row :: if source.isWrapped row then walk source most (row + 1) else []

theorem length_walk_pos (source : RowSource) {most : Nat} (row : Nat) (h : 0 < most) :
    0 < (walk source most row).length := by
  cases most with
  | zero => omega
  | succ => simp [walk]

end Chain

end BidiViewport
