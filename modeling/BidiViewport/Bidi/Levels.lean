import BidiViewport.Bidi.Neutral
import BidiViewport.Text.BidiClassTable

/-!
# Resolved levels of a paragraph

The explicit, weak and neutral rules put together, then rules I1 and I2: the level of
every character of a paragraph.  Characters that rule X9 takes out have the level of
the character before them.
-/

namespace BidiViewport

namespace Levels

/-- I1 and I2: how far a class is above the embedding level it stands in. -/
def raise (level : Nat) (c : BidiClass) : Nat :=
  match Direction.ofLevel level, c with
  | .ltr, .R => level + 1
  | .ltr, .AN | .ltr, .EN => level + 2
  | .rtl, .L | .rtl, .EN | .rtl, .AN => level + 1
  | _, _ => level

/-- The level of every character of a sequence, with its index in the text. -/
def ofSequence (s : RunSequence) : List (Nat × Nat) :=
  let weak := Weak.resolve s.sos (s.kept.map (·.resolved))
  let items := List.zipWith (fun (k : Kept) c => ⟨k.char, k.initial, c⟩) s.kept weak
  List.zipWith (fun (k : Kept) c => (k.index, raise k.level c)) s.kept
    (Neutral.resolve s.direction s.sos s.eos items)

/-- Characters taken out of the text get the level of the character before them. -/
def fillRemoved (previous : Nat) : List (BidiClass × Nat) → List Nat
  | [] => []
  | (c, level) :: rest =>
    let level := if c.isRemoved then previous else level
    level :: fillRemoved level rest

@[simp] theorem length_fillRemoved (previous : Nat) (cs : List (BidiClass × Nat)) :
    (fillRemoved previous cs).length = cs.length := by
  induction cs generalizing previous with
  | nil => rfl
  | cons c rest ih => simp [fillRemoved, ih]

end Levels

/-- The level of every character of a text that is one paragraph of the given level. -/
def paragraphLevels (paragraph : Nat) (text : List Char) : List Nat :=
  let classes := Embedding.settleIsolates (text.map BidiClass.of)
  let placed := Embedding.placeFrom (.start paragraph) classes
  let kept := Kept.keepFrom paragraph paragraph 0 (text.zip placed)
  let levels := ((runSequences paragraph kept).flatMap Levels.ofSequence).foldl
    (fun (levels : Array Nat) (index, level) => levels.setIfInBounds index level)
    (Array.replicate text.length paragraph)
  Levels.fillRemoved paragraph (classes.zip levels.toList)

/-- Every character has a level. -/
@[simp] theorem length_paragraphLevels (paragraph : Nat) (text : List Char) :
    (paragraphLevels paragraph text).length = text.length := by
  have size : ∀ (pairs : List (Nat × Nat)) (levels : Array Nat),
      (pairs.foldl (fun (levels : Array Nat) (p : Nat × Nat) =>
        levels.setIfInBounds p.1 p.2) levels).size = levels.size := by
    intro pairs
    induction pairs with
    | nil => intro levels; rfl
    | cons p rest ih => intro levels; simp [ih]
  simp [paragraphLevels, size]

end BidiViewport
