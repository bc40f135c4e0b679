import BidiViewport.Proofs.Shaping.Joins

/-!
# Strokes between letters

Two letters that join are drawn with a stroke each, one forward and one backward
(`Forms.ConnectsForward`, `Forms.ConnectsBackward`).  The two glyphs are chosen apart, from the
joining types and from the table of forms, and `Shaping.strokes_meet_iff` says when the strokes
meet: behind every letter but alef maksura.  That letter joins on both sides, but its row in the
table has no glyphs for it, so the letter behind it has a stroke that leads nowhere
(`Shaping.stroke_behind_alef_maksura`).
-/

namespace BidiViewport

namespace Forms

/-- The glyph has a stroke towards the letter after it. -/
def ConnectsForward (forms : Forms) (glyph : Char) : Prop :=
  (glyph = forms.initial ∨ glyph = forms.medial) ∧ glyph ≠ forms.isolated ∧ glyph ≠ forms.final

/-- The glyph has a stroke towards the letter before it. -/
def ConnectsBackward (forms : Forms) (glyph : Char) : Prop :=
  (glyph = forms.final ∨ glyph = forms.medial) ∧ glyph ≠ forms.isolated ∧ glyph ≠ forms.initial

instance (forms : Forms) (glyph : Char) : Decidable (forms.ConnectsForward glyph) :=
  inferInstanceAs (Decidable (_ ∧ _))

instance (forms : Forms) (glyph : Char) : Decidable (forms.ConnectsBackward glyph) :=
  inferInstanceAs (Decidable (_ ∧ _))

/-- The glyph of each place shows the joins of the place, if the letter can have them: one that
is not dual-joining has none to the letter after it. -/
theorem connects_of_mem_table : ∀ entry ∈ table, ∀ before after : Bool,
    let glyph := entry.2.glyph
      (.ofJoins before (JoiningType.of (.ofNat entry.1) = .dual && after))
    (entry.2.ConnectsForward glyph ↔
        JoiningType.of (.ofNat entry.1) = .dual ∧ after = true ∧ entry.1 ≠ 0x649) ∧
      (entry.2.ConnectsBackward glyph ↔ before = true) := by
  decide +kernel

theorem type_of_mem_table : ∀ entry ∈ table,
    JoiningType.of (.ofNat entry.1) = .dual ∨ JoiningType.of (.ofNat entry.1) = .right := by
  decide +kernel

end Forms

namespace Shaping

/-- The glyph of a letter between two texts shows its joins. -/
theorem connects_formBetween {c : Char} {forms : Forms} (hforms : Forms.of? c = some forms)
    (level : Nat) (before after : LeveledText) :
    (forms.ConnectsForward (forms.glyph (formBetween c level before after)) ↔
        JoiningType.of c = .dual ∧ (neighbour? level after).any (·.joinsBackward) = true ∧
          c ≠ 'ى') ∧
      (forms.ConnectsBackward (forms.glyph (formBetween c level before after)) ↔
        (neighbour? level before).any (·.joinsForward) = true) := by
  have hconnects := Forms.connects_of_mem_table _ (Forms.mem_table hforms)
    ((neighbour? level before).any (·.joinsForward))
    ((neighbour? level after).any (·.joinsBackward))
  have hmaksura : c.toNat ≠ 0x649 ↔ c ≠ 'ى' :=
    not_congr ⟨fun h => by rw [← Char.ofNat_toNat c, h], fun h => by rw [h]; rfl⟩
  rw [Char.ofNat_toNat, hmaksura] at hconnects
  exact hconnects

/-- A letter with presentation forms accepts a join from the letter before it, and joins to the
one after it only if it joins on both sides. -/
theorem joins_of_forms {c : Char} {forms : Forms} (h : Forms.of? c = some forms) :
    (JoiningType.of c).joinsBackward = true ∧
      ((JoiningType.of c).joinsForward = true ↔ JoiningType.of c = .dual) := by
  have htype := Forms.type_of_mem_table _ (Forms.mem_table h)
  rw [Char.ofNat_toNat] at htype
  rcases htype with hdual | hright
  · simp [hdual, JoiningType.joinsBackward, JoiningType.joinsForward]
  · simp [hright, JoiningType.joinsBackward, JoiningType.joinsForward]

theorem ne_transparent_of_forms {c : Char} {forms : Forms} (h : Forms.of? c = some forms) :
    JoiningType.of c ≠ .transparent := by
  intro hmark
  rw [Forms.of?_eq_none hmark] at h
  cases h

/-- Between two letters with nothing but marks of their level in between, a stroke goes out from
both or from neither, exactly if the first one is not alef maksura. -/
theorem strokes_meet_iff {text : LeveledText} {i j : Nat} (hadjoins : text.Adjoins i j)
    {a b : Char} {levelA levelB : Nat} (ha : text[i]? = some (a, levelA))
    (hb : text[j]? = some (b, levelB)) {formsA formsB : Forms} (hformsA : Forms.of? a = some formsA)
    (hformsB : Forms.of? b = some formsB) :
    (∃ glyph, (i, glyph) ∈ shape text) ∧ (∃ glyph, (j, glyph) ∈ shape text) ∧
      ∀ glyphA glyphB, (i, glyphA) ∈ shape text → (j, glyphB) ∈ shape text →
        ((formsA.ConnectsForward glyphA ↔ formsB.ConnectsBackward glyphB) ↔ a ≠ 'ى') := by
  obtain ⟨front, a', marks, b', rest, level, htext, rfl, rfl, hmarks⟩ := hadjoins.exists_split
  have htextA : text = front ++ (a', level) :: (marks ++ (b', level) :: rest) := by
    rw [htext, List.append_assoc, List.cons_append]
  obtain ⟨rfl, rfl⟩ : a' = a ∧ level = levelA := by
    rw [getElem?_iff_exists_split.2 ⟨_, _, htextA, rfl⟩] at ha
    exact Prod.mk.inj (Option.some.inj ha)
  obtain ⟨rfl, rfl⟩ : b' = b ∧ level = levelB := by
    rw [getElem?_iff_exists_split.2 ⟨_, _, htext, rfl⟩] at hb
    exact Prod.mk.inj (Option.some.inj hb)
  have hafter : neighbour? level (marks ++ (b', level) :: rest) = some (.of b') := by
    rw [neighbour?_marks hmarks, neighbour?_of_ne rest (ne_transparent_of_forms hformsB)]
  have hbefore : neighbour? level (front ++ (a', level) :: marks).reverse = some (.of a') := by
    rw [List.reverse_append, List.reverse_cons, List.append_assoc, List.singleton_append,
      neighbour?_marks hmarks.reverse,
      neighbour?_of_ne front.reverse (ne_transparent_of_forms hformsA)]
  refine ⟨⟨_, (mem_shape_of_split htextA).2 ⟨formsA, hformsA, rfl⟩⟩,
    ⟨_, (mem_shape_of_split htext).2 ⟨formsB, hformsB, rfl⟩⟩, ?_⟩
  intro glyphA glyphB hglyphA hglyphB
  obtain ⟨forms, hforms, rfl⟩ := (mem_shape_of_split htextA).1 hglyphA
  obtain rfl := Option.some.inj (hformsA.symm.trans hforms)
  obtain ⟨forms', hforms', rfl⟩ := (mem_shape_of_split htext).1 hglyphB
  obtain rfl := Option.some.inj (hformsB.symm.trans hforms')
  rw [(connects_formBetween hformsA _ _ _).1, (connects_formBetween hformsB _ _ _).2, hafter,
    hbefore, Option.any_some, Option.any_some, (joins_of_forms hformsA).2]
  have hback := (joins_of_forms hformsB).1
  constructor
  · rintro hmeet rfl
    exact (hmeet.2 (by decide)).2.2 rfl
  · intro hother
    exact ⟨fun h => h.1, fun hdual => ⟨hdual, hback, hother⟩⟩

/-- Beh and alef with a mark between them. -/
theorem strokes_meet_over_mark :
    let text : LeveledText := [('ب', 1), ('\u064E', 1), ('ا', 1)]
    let beh : Forms := ⟨'\uFE8F', '\uFE90', '\uFE91', '\uFE92'⟩
    let alef : Forms := ⟨'\uFE8D', '\uFE8E', '\uFE8D', '\uFE8E'⟩
    text.Adjoins 0 2 ∧ Forms.of? 'ب' = some beh ∧ Forms.of? 'ا' = some alef ∧
      shape text = [(0, '\uFE91'), (2, '\uFE8E')] ∧ beh.ConnectsForward '\uFE91' ∧
      (beh.ConnectsForward '\uFE91' ↔ alef.ConnectsBackward '\uFE8E') := by
  intro text beh alef
  have hmarks : LeveledText.AreMarks 1 [('\u064E', 1)] := by
    intro mark hmark
    obtain rfl := List.mem_singleton.1 hmark
    exact ⟨by decide, rfl⟩
  have htext : text = [] ++ ('ب', 1) :: [('\u064E', 1)] ++ ('ا', 1) :: [] := rfl
  have hadjoins : text.Adjoins 0 2 := LeveledText.adjoins_of_split htext hmarks
  have hshape : shape text = [(0, '\uFE91'), (2, '\uFE8E')] := by decide
  have hbeh : Forms.of? 'ب' = some beh := by decide
  have halef : Forms.of? 'ا' = some alef := by decide
  refine ⟨hadjoins, hbeh, halef, hshape, by decide, ?_⟩
  obtain ⟨-, -, hmeet⟩ := strokes_meet_iff hadjoins rfl rfl hbeh halef
  exact (hmeet '\uFE91' '\uFE8E' (by simp [hshape]) (by simp [hshape])).2 (by decide)

/-- Behind alef maksura beh has a stroke that no other one meets. -/
theorem stroke_behind_alef_maksura :
    let text : LeveledText := [('ى', 1), ('ب', 1)]
    let maksura : Forms := ⟨'\uFEEF', '\uFEF0', '\uFEEF', '\uFEF0'⟩
    let beh : Forms := ⟨'\uFE8F', '\uFE90', '\uFE91', '\uFE92'⟩
    text.Adjoins 0 1 ∧ Forms.of? 'ى' = some maksura ∧ Forms.of? 'ب' = some beh ∧
      shape text = [(0, '\uFEEF'), (1, '\uFE90')] ∧
      ¬(maksura.ConnectsForward '\uFEEF' ↔ beh.ConnectsBackward '\uFE90') := by
  intro text maksura beh
  have htext : text = [] ++ ('ى', 1) :: [] ++ ('ب', 1) :: [] := rfl
  refine ⟨LeveledText.adjoins_of_split htext (List.forall_mem_nil _), ?_⟩
  decide

end Shaping

end BidiViewport
