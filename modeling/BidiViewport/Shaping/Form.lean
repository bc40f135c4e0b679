/-!
# Presentation forms of Arabic letters

The contextual forms of each letter.  A letter that joins on one side only has its
isolated and final forms in the initial and medial places.
-/

namespace BidiViewport

/-- The place of a letter in a joined word. -/
inductive Form
  | isolated
  | final
  | initial
  | medial
deriving DecidableEq

/-- The place of a letter that is joined, or not, to the letters before and after. -/
def Form.ofJoins (before after : Bool) : Form :=
  match before, after with
  | true, true => .medial
  | true, false => .final
  | false, true => .initial
  | false, false => .isolated

/-- The glyphs of a letter. -/
structure Forms where
  isolated : Char
  final : Char
  initial : Char
  medial : Char
deriving DecidableEq

namespace Forms

/-- The glyph for a place. -/
def glyph (forms : Forms) : Form → Char
  | .isolated => forms.isolated
  | .final => forms.final
  | .initial => forms.initial
  | .medial => forms.medial

/-- The letters with presentation forms. -/
def table : List (Nat × Forms) := [
  (0x0622, ⟨'\uFE81', '\uFE82', '\uFE81', '\uFE82'⟩),
  (0x0623, ⟨'\uFE83', '\uFE84', '\uFE83', '\uFE84'⟩),
  (0x0624, ⟨'\uFE85', '\uFE86', '\uFE85', '\uFE86'⟩),
  (0x0625, ⟨'\uFE87', '\uFE88', '\uFE87', '\uFE88'⟩),
  (0x0626, ⟨'\uFE89', '\uFE8A', '\uFE8B', '\uFE8C'⟩),
  (0x0627, ⟨'\uFE8D', '\uFE8E', '\uFE8D', '\uFE8E'⟩),
  (0x0628, ⟨'\uFE8F', '\uFE90', '\uFE91', '\uFE92'⟩),
  (0x0629, ⟨'\uFE93', '\uFE94', '\uFE93', '\uFE94'⟩),
  (0x062A, ⟨'\uFE95', '\uFE96', '\uFE97', '\uFE98'⟩),
  (0x062B, ⟨'\uFE99', '\uFE9A', '\uFE9B', '\uFE9C'⟩),
  (0x062C, ⟨'\uFE9D', '\uFE9E', '\uFE9F', '\uFEA0'⟩),
  (0x062D, ⟨'\uFEA1', '\uFEA2', '\uFEA3', '\uFEA4'⟩),
  (0x062E, ⟨'\uFEA5', '\uFEA6', '\uFEA7', '\uFEA8'⟩),
  (0x062F, ⟨'\uFEA9', '\uFEAA', '\uFEA9', '\uFEAA'⟩),
  (0x0630, ⟨'\uFEAB', '\uFEAC', '\uFEAB', '\uFEAC'⟩),
  (0x0631, ⟨'\uFEAD', '\uFEAE', '\uFEAD', '\uFEAE'⟩),
  (0x0632, ⟨'\uFEAF', '\uFEB0', '\uFEAF', '\uFEB0'⟩),
  (0x0633, ⟨'\uFEB1', '\uFEB2', '\uFEB3', '\uFEB4'⟩),
  (0x0634, ⟨'\uFEB5', '\uFEB6', '\uFEB7', '\uFEB8'⟩),
  (0x0635, ⟨'\uFEB9', '\uFEBA', '\uFEBB', '\uFEBC'⟩),
  (0x0636, ⟨'\uFEBD', '\uFEBE', '\uFEBF', '\uFEC0'⟩),
  (0x0637, ⟨'\uFEC1', '\uFEC2', '\uFEC3', '\uFEC4'⟩),
  (0x0638, ⟨'\uFEC5', '\uFEC6', '\uFEC7', '\uFEC8'⟩),
  (0x0639, ⟨'\uFEC9', '\uFECA', '\uFECB', '\uFECC'⟩),
  (0x063A, ⟨'\uFECD', '\uFECE', '\uFECF', '\uFED0'⟩),
  (0x0641, ⟨'\uFED1', '\uFED2', '\uFED3', '\uFED4'⟩),
  (0x0642, ⟨'\uFED5', '\uFED6', '\uFED7', '\uFED8'⟩),
  (0x0643, ⟨'\uFED9', '\uFEDA', '\uFEDB', '\uFEDC'⟩),
  (0x0644, ⟨'\uFEDD', '\uFEDE', '\uFEDF', '\uFEE0'⟩),
  (0x0645, ⟨'\uFEE1', '\uFEE2', '\uFEE3', '\uFEE4'⟩),
  (0x0646, ⟨'\uFEE5', '\uFEE6', '\uFEE7', '\uFEE8'⟩),
  (0x0647, ⟨'\uFEE9', '\uFEEA', '\uFEEB', '\uFEEC'⟩),
  (0x0648, ⟨'\uFEED', '\uFEEE', '\uFEED', '\uFEEE'⟩),
  (0x0649, ⟨'\uFEEF', '\uFEF0', '\uFEEF', '\uFEF0'⟩),
  (0x064A, ⟨'\uFEF1', '\uFEF2', '\uFEF3', '\uFEF4'⟩)]

/-- The presentation forms of a character, if it has any. -/
def of? (c : Char) : Option Forms :=
  table.lookup c.toNat

theorem mem_table {c : Char} {forms : Forms} (h : of? c = some forms) :
    (c.toNat, forms) ∈ table := by
  obtain ⟨before, after, hsplit, -⟩ := List.lookup_eq_some_iff.1 h
  rw [hsplit]
  exact List.mem_append_right before List.mem_cons_self

end Forms

end BidiViewport
