import BidiViewport.Classifier.Unicode
import BidiViewport.CommandLine.Arguments
import BidiViewport.Layout.VisualText

/-!
# A text on the screen

The lines of a text are wrapped into a scrollback, and a viewport over it is laid out and
printed row by row.
-/

namespace BidiViewport

/-- The rows kept of a text. -/
def screenHistory : Nat := 10000

/-- The widest and highest window that settings are applied to. -/
def maxWindow : Nat := 65535

/-- A viewport over the rows of a text. -/
structure Screen where
  rows : Scrollback
  view : Viewport

namespace Screen

/-- The scrollback of a text whose lines are wrapped at a width. -/
def history (text : List Char) (width : Nat) (flags : DirectionFlags) : Scrollback :=
  (textLines text).foldl (fun rows line => rows.appendText line width flags)
    (.empty screenHistory)

/-- The text laid out as the arguments ask for, unless they ask for more than sizes allow. -/
def ofText? (text : List Char) (settings : Settings) (arguments : Arguments) : Option Screen :=
  let rows := history text arguments.width (arguments.flags settings.written.bidi.boxMirror)
  let start := arguments.start.getD rows.firstRow
  let size := arguments.rows.getD (rows.nextRow - start)
  let settings := settings.applyWindow ⟨min arguments.width maxWindow, min size maxWindow⟩
  let options := ViewportOptions.ofSettings settings
  if Viewport.isStorable options arguments.width size then
    let view := Viewport.new options (.ofKind settings.written.bidi.classifier)
    let laidOut? := ((view.setWidth arguments.width).setRows start size).recompute? rows.source
    laidOut?.map fun view => { rows, view }
  else none

def line (screen : Screen) (withMap : Bool) (row : Nat) : List Char :=
  match screen.view.rowMap? row with
  | none => []
  | some map =>
    let text := map.visualText screen.view.frame.classifier (screen.rows.row? row)
    if withMap then text ++ '|' :: map.columnText.toList else dropEndWhile isWhiteSpace text

def lines (screen : Screen) (withMap : Bool) : List (List Char) :=
  (List.range' screen.view.frame.start screen.view.frame.size).map (screen.line withMap)

def print (screen : Screen) (withMap : Bool) : String :=
  String.ofList ((screen.lines withMap).flatMap (· ++ ['\n']))

end Screen

end BidiViewport
