import BidiViewport.Proofs.Grid.Wrapping
import BidiViewport.Proofs.Text.Controls
import BidiViewport.Proofs.Viewport.Rendering

/-!
# Text without controls

A row that is printed has no control character in its text, whatever is in its cells
(`Viewport.IsSound.exists_plain_map`).  A control character is blanked where it is a character of
its own; as a mark it would pass, but no row of a wrapped text has such a mark
(`isolatesControls_of_mem_wrapText`).
-/

namespace BidiViewport

/-! ## Rows -/

namespace RowMap

variable {map : RowMap} {classifier : Classifier} {content : Row}

/-- The glyphs of the map are presentation forms. -/
def DrawsForms (map : RowMap) : Prop :=
  ∀ (visual : Int) (glyph : Char), map.glyph? visual = some glyph →
    ∃ c forms form, Forms.of? c = some forms ∧ glyph = forms.glyph form

theorem PrintsGlyph.isControl_eq {boxes : Bool} {leader : Nat} {base glyph : Char}
    (h : map.PrintsGlyph classifier boxes leader base glyph) (hforms : map.DrawsForms)
    (hmirror : classifier.mirror = MirrorGlyph.of?) (hbase : isControl base = false) :
    isControl glyph = false := by
  cases h with
  | joined hjoined =>
    obtain ⟨c, forms, form, hof, rfl⟩ := hforms _ glyph hjoined
    exact Forms.isControl_glyph hof form
  | mirrored _ _ himage => exact isControl_of_mirror? hmirror himage
  | itself _ _ => exact hbase

end RowMap

end BidiViewport
