import BidiViewport.Layout.Viewport
import BidiViewport.Mirror
import BidiViewport.Text.Blank

/-!
# Printing a row in visual order

A row is printed column by column from left to right.  Each character is printed once, at
the leftmost column that it fills, as its joined form if it has one and otherwise
mirrored when it runs from right to left.  Columns without a character, and every column
of a control character, are blank.
-/

namespace BidiViewport

namespace RowMap

/-- The column of the leader whose character a visual column shows. -/
def leaderAt? (map : RowMap) (row : Row) (visual : Nat) : Option Nat :=
  let column := map.toLogical visual
  if column < 0 then none else row.leaderColumn? column.toNat

/-- The glyph printed at a visual column for the character `base`, whose leader is at
the logical column `column`. -/
def printedGlyph (map : RowMap) (classifier : Classifier) (boxes : Bool) (visual column : Nat)
    (base : Char) : Char :=
  match map.glyph? (map.toVisual column) with
  | some glyph => glyph
  | none =>
    match map.visualDirection visual with
    | .ltr => base
    | .rtl => (mirror? base boxes (some classifier)).getD base

/-- The text of the visual columns from `visual` on, `count` of them, when the leaders at
the columns `printed` have been printed. -/
def visualTextFrom (map : RowMap) (classifier : Classifier) (row : Row) (printed : List Nat)
    (visual : Nat) : (count : Nat) → List Char
  | 0 => []
  | count + 1 =>
    match map.leaderAt? row visual with
    | none => ' ' :: map.visualTextFrom classifier row printed (visual + 1) count
    | some column =>
      match row.cell? column with
      | some (.leader base marks _) =>
        if isControl base then
          ' ' :: map.visualTextFrom classifier row printed (visual + 1) count
        else if printed.contains column then
          map.visualTextFrom classifier row printed (visual + 1) count
        else
          map.printedGlyph classifier row.flags.boxMirror visual column base :: marks ++
            map.visualTextFrom classifier row (column :: printed) (visual + 1) count
      | _ => ' ' :: map.visualTextFrom classifier row printed (visual + 1) count

/-- A row in visual order; a missing row is blank. -/
def visualText (map : RowMap) (classifier : Classifier) (row : Option Row) : List Char :=
  match row with
  | none => List.replicate map.width ' '
  | some row => map.visualTextFrom classifier row [] 0 map.width

/-- The logical columns of the visual ones, as decimals with spaces between. -/
def columnText (map : RowMap) : String :=
  " ".intercalate
    ((List.range map.width).map fun (visual : Nat) => toString (map.toLogical visual))

end RowMap

namespace Viewport

/-- The text of a visible row in visual order. -/
def visualText? (view : Viewport) (source : RowSource) (row : Nat) : Option (List Char) :=
  (view.rowMap? row).map (·.visualText view.frame.classifier (source.rowAt row))

/-- The viewport in one line, for diagnosis. -/
def describe (view : Viewport) : String :=
  "RingView \x7b classifier: \"" ++ view.frame.classifier.name ++ "\", start: "
    ++ toString view.frame.start ++ ", len: " ++ toString view.frame.size ++ ", width: "
    ++ toString view.frame.width ++ ", valid: " ++ toString view.isValid ++ " \x7d"

end Viewport

end BidiViewport
