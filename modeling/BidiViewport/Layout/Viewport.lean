import BidiViewport.Grid.Scrollback
import BidiViewport.Layout.Pass
import BidiViewport.Layout.RowMap
import BidiViewport.Settings.Options

/-!
# The viewport

A viewport shows the rows of a scrollback from `start` on and keeps a row map for each.
Changing what it shows marks the maps as stale; `recompute` runs a layout pass and puts
the layouts into the maps.  Only the maps' storage remembers earlier layouts.

The numbers of rows and the storage are unbounded here.  Where they have to be sizes,
`isStorable` and `recompute?` say whether they are.
-/

namespace BidiViewport

/-- The visible rows and their maps. -/
structure Viewport where
  frame : Frame
  /-- The limit asked for; the frame has what the budget allows of it. -/
  requestedLimit : Nat
  reserveColumns : Nat
  maps : Array RowMap
  /-- The maps are those of the current frame. -/
  isValid : Bool := false
  /-- The work of the last pass. -/
  stats : PassStats := {}

namespace Viewport

/-- A viewport that shows nothing yet. -/
def new (options : ViewportOptions) (classifier : Classifier) : Viewport where
  frame :=
    { classifier, limit := clampLimit options.limit 0, shaping := options.shaping }
  requestedLimit := options.limit
  reserveColumns := max 1 options.reserveColumns
  maps := .replicate (max 1 options.reserveRows) (.withCapacity options.reserveColumns)

/-- A viewport that begins with these options can be asked to show `size` rows of `width`
columns: neither a row map nor their number has to grow above `maxLength`. -/
def isStorable (options : ViewportOptions) (width size : Nat) : Bool :=
  grownCapacity width (max 1 options.reserveColumns) ≤ maxLength &&
    grownCapacity size (max 1 options.reserveRows) ≤ maxLength

def capacity (view : Viewport) : Nat :=
  view.maps.size

/-- The maps no longer hold, because the rows have changed. -/
def invalidate (view : Viewport) : Viewport :=
  { view with isValid := false }

/-- What clamping a limit to the budget at a width reports. -/
def limitEvents (requested width : Nat) : List Event :=
  let clamped := clampLimit requested width
  if clamped = requested then [] else [.viewportLimitClamped requested clamped width]

def setWidth (view : Viewport) (width : Nat) : Viewport :=
  if width = view.frame.width then view
  else
    { view with
      frame := { view.frame with width, limit := clampLimit view.requestedLimit width }
      maps := view.maps.map (·.setWidth width)
      isValid := false }

def setWidthEvents (view : Viewport) (width : Nat) : List Event :=
  if width = view.frame.width then [] else limitEvents view.requestedLimit width

/-- The number of row maps once `size` rows are shown. -/
def grownTo (view : Viewport) (size : Nat) : Nat :=
  grownCapacity size view.capacity

def setRows (view : Viewport) (start size : Nat) : Viewport :=
  { view with
    frame := { view.frame with start, size }
    maps := view.maps ++
      Array.replicate (view.grownTo size - view.capacity)
        ((RowMap.withCapacity view.reserveColumns).setWidth view.frame.width)
    isValid := view.isValid && start = view.frame.start && size = view.frame.size }

def setRowsEvents (view : Viewport) (size : Nat) : List Event :=
  if view.capacity < size then [.rowMapsGrown (view.grownTo size)] else []

def setClassifier (view : Viewport) (classifier : Classifier) : Viewport :=
  { view with frame := { view.frame with classifier }, isValid := false }

def setShaping (view : Viewport) (shaping : Bool) : Viewport :=
  { view with
    frame := { view.frame with shaping }
    isValid := view.isValid && shaping = view.frame.shaping }

def setLimit (view : Viewport) (limit : Nat) : Viewport :=
  if limit = view.requestedLimit then view
  else
    { view with
      frame := { view.frame with limit := clampLimit limit view.frame.width }
      requestedLimit := limit
      isValid := false }

def setLimitEvents (view : Viewport) (limit : Nat) : List Event :=
  if limit = view.requestedLimit then [] else limitEvents limit view.frame.width

/-- The first maps with one layout each. -/
def applyAll (maps : List RowMap) (layouts : List RowLayout) : List RowMap :=
  maps.zipWith RowMap.apply layouts ++ maps.drop layouts.length

/-- The viewport with the outcome of a pass over its rows. -/
def accept (view : Viewport) (pass : Pass) : Viewport :=
  { view with
    maps := (applyAll view.maps.toList pass.layouts).toArray
    isValid := true
    stats := pass.stats }

/-- The viewport with every visible row laid out. -/
def recompute (view : Viewport) (source : RowSource) : Viewport :=
  view.accept (view.frame.pass source)

/-- The viewport with every visible row laid out, unless the number of the row below it would
not be a size. -/
def recompute? (view : Viewport) (source : RowSource) : Option Viewport :=
  if view.frame.stop ≤ maxSize then some (view.recompute source) else none

/-- Lays the rows out if something has changed since they last were. -/
def update (view : Viewport) (source : RowSource) : Viewport :=
  if view.isValid then view else view.recompute source

def rowMap? (view : Viewport) (row : Nat) : Option RowMap :=
  if view.frame.shows row then view.maps[row - view.frame.start]? else none

end Viewport

end BidiViewport
