import BidiViewport.Bidi.Levels
import BidiViewport.Bidi.VisualOrder
import BidiViewport.Classifier.Basic

/-!
# The Unicode bidirectional algorithm as a classifier

* `Classifier.unicode` runs the bidirectional algorithm on the whole paragraph and the
  line rules on each line.
* `wellFormed_unicode`: its analyses keep what a classifier promises.
-/

namespace BidiViewport

/-- How many paragraphs a text holds: each separator ends one, and text after the last
separator is one more. -/
def paragraphCount (text : List Char) : Nat :=
  text.countP isParagraphSeparator +
    (match text.getLast? with
      | some c => if isParagraphSeparator c then 0 else 1
      | none => 0)

/-- The paragraph direction for a text: detected when the base asks for it. -/
def ParagraphBase.resolve (base : ParagraphBase) (text : List Char) : Direction :=
  match base with
  | .fixed direction => direction
  | .auto fallback => (firstStrongDirection (text.map BidiClass.of)).getD fallback

namespace Classifier

/-- One line of a paragraph with the given classes and levels. -/
def orderLine (paragraph : Nat) (classes : Array BidiClass) (levels : Array Nat)
    (start stop : Nat) : Except ClassifyError LineOrder :=
  if stop < start ∨ levels.size < stop then
    .error (.lineOutOfRange start stop levels.size)
  else
    let line := ((classes.extract start stop).zip (levels.extract start stop)).toList
    let lineLevels := VisualOrder.lineLevels paragraph line
    .ok { visual := (VisualOrder.ofLevels lineLevels).toArray, levels := lineLevels.toArray }

/-- The analysis of a text that is one paragraph in the given direction. -/
def analysis (direction : Direction) (text : List Char) : Analysis :=
  let levels := (paragraphLevels direction.level text).toArray
  let classes := (text.map BidiClass.of).toArray
  { direction
    levels
    isSingle := levels.all (· == direction.level)
    reorder := orderLine direction.level classes levels }

/-- The bidirectional algorithm of Unicode. -/
def unicode : Classifier where
  name := "unicode-bidi"
  isAvailable := true
  analyze text base :=
    if text.isEmpty then .error .empty
    else if paragraphCount text = 1 then .ok (analysis (base.resolve text) text)
    else .error (.multipleParagraphs (paragraphCount text))

/-- The classifier of a kind. -/
def ofKind : ClassifierKind → Classifier
  | .unicode => unicode
  | .explicit => explicit

theorem orderLine_perm {paragraph : Nat} {classes : Array BidiClass} {levels : Array Nat}
    {start stop : Nat} {order : LineOrder} (hsize : classes.size = levels.size)
    (h : orderLine paragraph classes levels start stop = .ok order) :
    order.visual.toList.Perm (List.range (stop - start)) ∧
      order.levels.size = stop - start := by
  unfold orderLine at h
  split at h
  · simp at h
  · next hrange =>
    have hlen : min (stop - start) (levels.size - start) = stop - start := by omega
    obtain rfl := Except.ok.inj h
    refine ⟨(VisualOrder.ofLevels_perm _).trans ?_, ?_⟩ <;> simp [hsize, hlen]

/-- Where the bidirectional algorithm has an analysis, it is that of the direction it resolves. -/
theorem eq_analysis_of_analyze {text : List Char} {base : ParagraphBase} {a : Analysis}
    (h : unicode.analyze text base = .ok a) : a = analysis (base.resolve text) text := by
  simp only [unicode] at h
  split at h
  · cases h
  · split at h
    · exact (Except.ok.inj h).symm
    · cases h

/-- The analyses of the bidirectional algorithm keep what a classifier promises. -/
theorem wellFormed_unicode : unicode.WellFormed := by
  intro text base a h
  obtain rfl := eq_analysis_of_analyze h
  exact ⟨by simp [analysis], fun _ _ ho => orderLine_perm (by simp) ho⟩

end Classifier

end BidiViewport
