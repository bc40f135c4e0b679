import BidiViewport.Classifier.Basic

/-!
# Mirroring glyphs in right-to-left cells

Box drawing characters have no mirroring property, yet frames drawn by right-to-left
applications are expected to flip; a row asks for that.  All other characters are
mirrored by the classifier, or by their Unicode property where there is none.
-/

namespace BidiViewport

namespace BoxDrawing

/-- The first box drawing character. -/
def first : Nat := 0x2500

/-- Characters in the block. -/
def count : Nat := 0x80

/-- The character is in the block. -/
def contains (c : Char) : Bool :=
  first ≤ c.toNat && c.toNat < first + count

/-- The position in the block of each character's mirror image. -/
def mirrored : Array Nat := #[
  0x00, 0x01, 0x02, 0x03, 0x04, 0x05, 0x06, 0x07, 0x08, 0x09, 0x0a, 0x0b, 0x10, 0x11, 0x12, 0x13,
  0x0c, 0x0d, 0x0e, 0x0f, 0x18, 0x19, 0x1a, 0x1b, 0x14, 0x15, 0x16, 0x17, 0x24, 0x25, 0x26, 0x27,
  0x28, 0x29, 0x2a, 0x2b, 0x1c, 0x1d, 0x1e, 0x1f, 0x20, 0x21, 0x22, 0x23, 0x2c, 0x2e, 0x2d, 0x2f,
  0x30, 0x32, 0x31, 0x33, 0x34, 0x36, 0x35, 0x37, 0x38, 0x3a, 0x39, 0x3b, 0x3c, 0x3e, 0x3d, 0x3f,
  0x40, 0x41, 0x42, 0x44, 0x43, 0x46, 0x45, 0x47, 0x48, 0x4a, 0x49, 0x4b, 0x4c, 0x4d, 0x4e, 0x4f,
  0x50, 0x51, 0x55, 0x56, 0x57, 0x52, 0x53, 0x54, 0x5b, 0x5c, 0x5d, 0x58, 0x59, 0x5a, 0x61, 0x62,
  0x63, 0x5e, 0x5f, 0x60, 0x64, 0x65, 0x66, 0x67, 0x68, 0x69, 0x6a, 0x6b, 0x6c, 0x6e, 0x6d, 0x70,
  0x6f, 0x72, 0x71, 0x73, 0x76, 0x75, 0x74, 0x77, 0x7a, 0x79, 0x78, 0x7b, 0x7e, 0x7d, 0x7c, 0x7f]

/-- The mirror image of a box drawing character, `none` when it is its own. -/
def mirror? (c : Char) : Option Char :=
  match mirrored[c.toNat - first]? with
  | none => none
  | some position =>
    if position = c.toNat - first then none else some (.ofNat (first + position))

end BoxDrawing

/-- The glyph that mirrors `c`, `none` when there is no distinct one.  Box drawing is
mirrored only when `boxes` asks for it. -/
def mirror? (c : Char) (boxes : Bool) (classifier : Option Classifier) : Option Char :=
  if BoxDrawing.contains c then
    if boxes then BoxDrawing.mirror? c else none
  else
    let image := match classifier with
      | some classifier => classifier.mirror c
      | none => MirrorGlyph.of? c
    image.filter (· ≠ c)

end BidiViewport
