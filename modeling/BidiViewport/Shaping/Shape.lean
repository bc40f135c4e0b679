import BidiViewport.Shaping.Form
import BidiViewport.Shaping.Joining

/-!
# Shaping

A terminal draws one glyph per cell, so cursive joining is drawn by substituting the
presentation form of each letter.  Letters join across marks, but never across a
change of level.  No ligatures are formed: they would merge two cells into one.
-/

namespace BidiViewport

/-- Characters in logical order, each with its level. -/
abbrev LeveledText := List (Char × Nat)

namespace Shaping

/-- The joining type of the first character that is not a mark, when it and all marks
on the way are at the given level. -/
def neighbour? (level : Nat) : LeveledText → Option JoiningType
  | [] => none
  | (c, l) :: rest =>
    if l = level then
      if JoiningType.of c = .transparent then neighbour? level rest else some (.of c)
    else none

/-- The place of a letter between the text before it, the nearest character first, and
the text after it. -/
def formBetween (c : Char) (level : Nat) (before after : LeveledText) : Form :=
  .ofJoins ((neighbour? level before).any (·.joinsForward))
    (JoiningType.of c = .dual && (neighbour? level after).any (·.joinsBackward))

/-- The glyphs of the rest of a text, whose first character has index `index` and is
preceded by `before`, the nearest character first. -/
def shapeFrom (index : Nat) (before : LeveledText) : LeveledText → List (Nat × Char)
  | [] => []
  | (c, level) :: rest =>
    let tail := shapeFrom (index + 1) ((c, level) :: before) rest
    match Forms.of? c with
    | none => tail
    | some forms => (index, forms.glyph (formBetween c level before rest)) :: tail

end Shaping

/-- The indices of the letters with presentation forms and the glyphs to draw for them. -/
def shape (text : LeveledText) : List (Nat × Char) :=
  Shaping.shapeFrom 0 [] text

end BidiViewport
