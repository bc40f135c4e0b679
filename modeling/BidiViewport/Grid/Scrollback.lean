import BidiViewport.Event
import BidiViewport.Grid.Wrap

/-!
# Scrollback

The newest rows of a terminal.  Rows are numbered from zero in the order they are
pushed and keep their numbers for ever; when the scrollback is full, pushing a row
evicts the oldest.  Row `i` is stored in slot `i % maxRows`, so eviction overwrites
one slot.
-/

namespace BidiViewport

/-- Read-only access to rows by number. -/
structure RowSource where
  /-- The row of a number, `none` when it was evicted or not yet written. -/
  rowAt : Nat → Option Row
  /-- The number of the oldest row kept. -/
  firstRow : Nat
  /-- One past the number of the newest row. -/
  nextRow : Nat

/-- The last `maxRows` of the `pushed` rows. -/
structure Scrollback where
  slots : Array Row
  pushed : Nat
  maxRows : Nat
  maxRows_pos : 0 < maxRows

namespace Scrollback

/-- No rows yet; a capacity of zero counts as one. -/
def empty (maxRows : Nat) : Scrollback where
  slots := #[]
  pushed := 0
  maxRows := max 1 maxRows
  maxRows_pos := by omega

def size (s : Scrollback) : Nat :=
  s.slots.size

def isEmpty (s : Scrollback) : Bool :=
  s.slots.isEmpty

/-- The number of the oldest row kept. -/
def firstRow (s : Scrollback) : Nat :=
  s.pushed - s.size

/-- One past the number of the newest row. -/
def nextRow (s : Scrollback) : Nat :=
  s.pushed

def isFull (s : Scrollback) : Bool :=
  s.size = s.maxRows

def retains (s : Scrollback) (index : Nat) : Bool :=
  s.firstRow ≤ index && index < s.nextRow

def row? (s : Scrollback) (index : Nat) : Option Row :=
  if s.retains index then s.slots[index % s.maxRows]? else none

def push (s : Scrollback) (row : Row) : Scrollback :=
  { s with
    slots :=
      if s.isFull then s.slots.setIfInBounds (s.pushed % s.maxRows) row else s.slots.push row
    pushed := s.pushed + 1 }

/-- The number that a pushed row gets. -/
def pushNumber (s : Scrollback) (row : Row) : Nat :=
  (s.push row).nextRow - 1

/-- What pushing a row reports: the oldest row is evicted. -/
def pushEvents (s : Scrollback) : List Event :=
  if s.isFull then [.rowEvicted (s.firstRow + 1)] else []

def extend (s : Scrollback) (rows : List Row) : Scrollback :=
  rows.foldl push s

/-- The numbers that pushed rows get: the first of them, and one past the last. -/
def extendRange (s : Scrollback) (rows : List Row) : Nat × Nat :=
  (s.nextRow, (s.extend rows).nextRow)

def extendEvents (s : Scrollback) : List Row → List Event
  | [] => []
  | row :: rest => s.pushEvents ++ (s.push row).extendEvents rest

/-- A text, wrapped at a width. -/
def appendText (s : Scrollback) (text : List Char) (width : Nat) (flags : DirectionFlags) :
    Scrollback :=
  s.extend (wrapText text width flags)

def appendTextRange (s : Scrollback) (text : List Char) (width : Nat) (flags : DirectionFlags) :
    Nat × Nat :=
  s.extendRange (wrapText text width flags)

def appendTextEvents (s : Scrollback) (text : List Char) (width : Nat) (flags : DirectionFlags) :
    List Event :=
  s.extendEvents (wrapText text width flags)

/-- The scrollback with the row of a number changed; a row that is not kept stays
as it is. -/
def modify (s : Scrollback) (index : Nat) (f : Row → Row) : Scrollback :=
  if s.retains index then { s with slots := s.slots.modify (index % s.maxRows) f } else s

/-- The scrollback with the row of a number changed, if that row is kept. -/
def modify? (s : Scrollback) (index : Nat) (f : Row → Row) : Option Scrollback :=
  if s.retains index then some (s.modify index f) else none

def source (s : Scrollback) : RowSource where
  rowAt := s.row?
  firstRow := s.firstRow
  nextRow := s.nextRow

end Scrollback

end BidiViewport
