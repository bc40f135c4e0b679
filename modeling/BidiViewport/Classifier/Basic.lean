import BidiViewport.Direction
import BidiViewport.Text.MirrorGlyph

/-!
# Classifiers

A viewport does not interpret bidirectional classes itself.  It hands the text of a
paragraph to a classifier, which answers with an analysis: the resolved direction, a
level for every character, and a visual order for each line.  Every failure has a
cause (`ClassifyError`), and the viewport recovers from all of them.
-/

namespace BidiViewport

/-- Why a paragraph or a line could not be analysed. -/
inductive ClassifyError
  | unavailable
  | empty
  | multipleParagraphs (count : Nat)
  | lineOutOfRange (start stop length : Nat)
deriving DecidableEq

def ClassifyError.message : ClassifyError → String
  | .unavailable => "no bidi classifier available"
  | .empty => "empty paragraph"
  | .multipleParagraphs count => s!"text split into {count} paragraphs"
  | .lineOutOfRange start stop length =>
    s!"line {start}..{stop} outside paragraph of {length} characters"

/-- The visual order of one line of a paragraph. -/
structure LineOrder where
  /-- The indices, within the line, of its characters from left to right. -/
  visual : Array Nat := #[]
  /-- The levels of the line's characters after the line rules. -/
  levels : Array Nat := #[]
deriving DecidableEq, Inhabited

/-- A paragraph with its levels resolved. -/
structure Analysis where
  /-- The resolved, possibly detected, direction of the paragraph. -/
  direction : Direction
  levels : Array Nat
  /-- Every character has the paragraph's own level. -/
  isSingle : Bool
  /-- The order of the characters from index `start` up to `stop` as one line. -/
  reorder : (start stop : Nat) → Except ClassifyError LineOrder

structure Classifier where
  name : String
  /-- `false` for a classifier that cannot reorder at all. -/
  isAvailable : Bool
  analyze : (text : List Char) → ParagraphBase → Except ClassifyError Analysis
  mirror : Char → Option Char := MirrorGlyph.of?

/-- Which classifier the settings ask for. -/
inductive ClassifierKind
  | unicode
  | explicit
deriving DecidableEq, Inhabited

namespace Classifier

/-- The classifier that lays everything out in its declared direction. -/
def explicit : Classifier where
  name := "explicit"
  isAvailable := false
  analyze _ _ := .error .unavailable

end Classifier

/-- What a classifier promises about the lines of an analysed text: as many levels as
characters, and for each line it orders a permutation of the line with a level for
each of its characters. -/
structure Analysis.WellFormed (a : Analysis) (length : Nat) : Prop where
  size_levels : a.levels.size = length
  visual_perm : ∀ {start stop : Nat} {order : LineOrder}, start ≤ stop → stop ≤ length →
    a.reorder start stop = .ok order →
    order.visual.toList.Perm (List.range (stop - start)) ∧ order.levels.size = stop - start

/-- A classifier all of whose analyses are well formed. -/
def Classifier.WellFormed (c : Classifier) : Prop :=
  ∀ (text : List Char) (base : ParagraphBase) (a : Analysis),
    c.analyze text base = .ok a → a.WellFormed text.length

end BidiViewport
