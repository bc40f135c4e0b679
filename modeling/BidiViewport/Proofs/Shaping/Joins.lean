import BidiViewport.Proofs.Shaping.Neighbours

/-!
# Joins of letters

Shaping walks through a text once and gives every letter the glyph of its place between the
texts before and after it (`Shaping.mem_shapeFrom`).  `Shaping.shape_follows_joins` is that the
glyphs follow the joins of the text, and that a mark or a change of level has no other effect
than these give it.
-/

namespace BidiViewport

/-- The levels of the last character of a text and of the first one of another differ. -/
def LeveledText.Parts (front back : LeveledText) : Prop :=
  ∀ last ∈ front.getLast?, ∀ first ∈ back.head?, last.2 ≠ first.2

/-- The place of a letter that is joined, or not, before and after. -/
inductive Form.Fits (before after : Prop) : Form → Prop
  | medial : before → after → Fits before after .medial
  | final : before → ¬after → Fits before after .final
  | initial : ¬before → after → Fits before after .initial
  | isolated : ¬before → ¬after → Fits before after .isolated

theorem Form.fits_ofJoins {before after : Bool} {form : Form} :
    Fits (before = true) (after = true) form ↔ form = .ofJoins before after := by
  constructor
  · intro h
    cases h <;> simp_all [ofJoins]
  · rintro rfl
    cases before <;> cases after
    · exact .isolated Bool.false_ne_true Bool.false_ne_true
    · exact .initial Bool.false_ne_true rfl
    · exact .final rfl Bool.false_ne_true
    · exact .medial rfl rfl

theorem Forms.of?_eq_none {c : Char} (h : JoiningType.of c = .transparent) : of? c = none := by
  have htable : ∀ entry ∈ table, JoiningType.of (.ofNat entry.1) ≠ .transparent := by
    decide +kernel
  cases hforms : of? c with
  | none => rfl
  | some forms =>
    have hletter := htable _ (mem_table hforms)
    rw [Char.ofNat_toNat] at hletter
    exact absurd h hletter

/-! ## Glyphs -/

namespace Shaping

open LeveledText (Parts)

/-- The glyph of a character between the texts before and after it, with its index. -/
def placed (index : Nat) (before : LeveledText) (c : Char) (level : Nat) (after : LeveledText) :
    List (Nat × Char) :=
  ((Forms.of? c).map fun forms => (index, forms.glyph (formBetween c level before after))).toList

theorem shapeFrom_cons (index : Nat) (before : LeveledText) (c : Char) (level : Nat)
    (after : LeveledText) : shapeFrom index before ((c, level) :: after) =
      placed index before c level after ++ shapeFrom (index + 1) ((c, level) :: before) after := by
  rw [shapeFrom, placed]
  cases Forms.of? c <;> rfl

theorem mem_placed {index : Nat} {before : LeveledText} {c : Char} {level : Nat}
    {after : LeveledText} {entry : Nat × Char} :
    entry ∈ placed index before c level after ↔ ∃ forms, Forms.of? c = some forms ∧
      (index, forms.glyph (formBetween c level before after)) = entry := by
  rw [placed, Option.mem_toList, Option.map_eq_some_iff]

/-- Each glyph is that of a letter in its place between the texts before and after it. -/
theorem mem_shapeFrom {index : Nat} {before text : LeveledText} {entry : Nat × Char} :
    entry ∈ shapeFrom index before text ↔
      ∃ front c level rest, text = front ++ (c, level) :: rest ∧
        entry ∈ placed (index + front.length) (front.reverse ++ before) c level rest := by
  induction text generalizing index before with
  | nil => simp [shapeFrom]
  | cons first later ih =>
    obtain ⟨d, l⟩ := first
    rw [shapeFrom_cons, List.mem_append, ih]
    constructor
    · rintro (hown | ⟨front, c, level, rest, rfl, hlater⟩)
      · exact ⟨[], d, l, later, rfl, hown⟩
      · refine ⟨(d, l) :: front, c, level, rest, rfl, ?_⟩
        simpa [Nat.add_assoc, Nat.add_comm 1] using hlater
    · rintro ⟨front, c, level, rest, htext, hentry⟩
      cases front with
      | nil =>
        obtain ⟨hfirst, rfl⟩ := List.cons.inj htext
        obtain ⟨rfl, rfl⟩ := Prod.mk.inj hfirst
        exact .inl hentry
      | cons first front =>
        obtain ⟨rfl, rfl⟩ := List.cons.inj htext
        refine .inr ⟨front, c, level, rest, rfl, ?_⟩
        simpa [Nat.add_assoc, Nat.add_comm 1] using hentry

/-- The letters come in the order of the text. -/
theorem pairwise_shapeFrom (index : Nat) (before text : LeveledText) :
    (shapeFrom index before text).Pairwise (·.1 < ·.1) := by
  induction text generalizing index before with
  | nil => exact .nil
  | cons first later ih =>
    rw [shapeFrom_cons, List.pairwise_append]
    refine ⟨?_, ih _ _, ?_⟩
    · unfold placed
      cases Forms.of? first.1 <;> simp
    · intro own hown other hother
      obtain ⟨forms, -, rfl⟩ := mem_placed.1 hown
      obtain ⟨front, c, level, rest, -, hplaced⟩ := mem_shapeFrom.1 hother
      obtain ⟨forms', -, rfl⟩ := mem_placed.1 hplaced
      dsimp only
      omega

/-! ### Texts that look alike to a letter -/

/-- A letter finds the same neighbour in both texts, whatever its level. -/
def Alike (text other : LeveledText) : Prop :=
  ∀ level, neighbour? level text = neighbour? level other

theorem Alike.cons {text other : LeveledText} (h : Alike text other) (entry : Char × Nat) :
    Alike (entry :: text) (entry :: other) := by
  intro level
  simp only [neighbour?, h level]

theorem Alike.append {text other : LeveledText} (h : Alike text other) (front : LeveledText) :
    Alike (front ++ text) (front ++ other) := by
  induction front with
  | nil => exact h
  | cons first rest ih => exact ih.cons first

section Marks

variable {mark : Char} (hmark : JoiningType.of mark = .transparent)
include hmark

/-- Behind a character of its level a mark is passed over. -/
theorem alike_mark_after (c : Char) (level : Nat) (rest : LeveledText) :
    Alike ((c, level) :: (mark, level) :: rest) ((c, level) :: rest) := by
  intro own
  by_cases hlevel : level = own
  · simp only [neighbour?, hlevel, hmark, if_true]
  · simp only [neighbour?, hlevel, if_false]

theorem alike_mark_before (c : Char) (level : Nat) (rest : LeveledText) :
    Alike ((mark, level) :: (c, level) :: rest) ((c, level) :: rest) := by
  intro own
  by_cases hlevel : level = own
  · simp only [neighbour?, hlevel, hmark, if_true]
  · simp only [neighbour?, hlevel, if_false]

end Marks

theorem placed_congr {before before' after after' : LeveledText} (hbefore : Alike before before')
    (hafter : Alike after after') (index : Nat) (c : Char) (level : Nat) :
    placed index before c level after = placed index before' c level after' := by
  unfold placed formBetween
  rw [hbefore level, hafter level]

theorem shapeFrom_congr {before before' : LeveledText} (h : Alike before before') (index : Nat)
    (text : LeveledText) : shapeFrom index before text = shapeFrom index before' text := by
  induction text generalizing index before before' with
  | nil => rfl
  | cons first rest ih =>
    obtain ⟨c, level⟩ := first
    rw [shapeFrom_cons, shapeFrom_cons, placed_congr h (fun _ => rfl), ih (h.cons (c, level))]

/-- Where a text begins decides about the indices alone. -/
theorem shapeFrom_add (count index : Nat) (before text : LeveledText) :
    shapeFrom (count + index) before text =
      (shapeFrom index before text).map fun entry => (count + entry.1, entry.2) := by
  induction text generalizing index before with
  | nil => rfl
  | cons first rest ih =>
    obtain ⟨c, level⟩ := first
    rw [shapeFrom_cons, shapeFrom_cons, List.map_append, Nat.add_assoc, ih]
    congr 1
    unfold placed
    cases Forms.of? c <;> rfl

/-! ### A mark more or less -/

/-- The place of a glyph in a text that has one character more behind the index `place`. -/
def makeRoom (place : Nat) (entry : Nat × Char) : Nat × Char :=
  (if entry.1 ≤ place then entry.1 else entry.1 + 1, entry.2)

theorem map_makeRoom_placed {index place : Nat} (h : index ≤ place) (before : LeveledText)
    (c : Char) (level : Nat) (after : LeveledText) :
    (placed index before c level after).map (makeRoom place) =
      placed index before c level after := by
  unfold placed
  cases Forms.of? c with
  | none => rfl
  | some forms => simp [makeRoom, h]

theorem map_makeRoom_shapeFrom (place : Nat) (before text : LeveledText) :
    (shapeFrom (place + 1) before text).map (makeRoom place) =
      shapeFrom (place + 2) before text := by
  rw [show place + 2 = 1 + (place + 1) by omega, shapeFrom_add 1 (place + 1)]
  refine List.map_congr_left fun entry hentry => ?_
  obtain ⟨front, c, level, rest, -, hplaced⟩ := mem_shapeFrom.1 hentry
  obtain ⟨forms, -, rfl⟩ := mem_placed.1 hplaced
  have hbehind : ¬place + 1 + front.length ≤ place := by omega
  rw [makeRoom, if_neg hbehind, Nat.add_comm 1]

/-- A mark behind a character of its level only moves the glyphs after it. -/
theorem shapeFrom_insert {mark : Char} (hmark : JoiningType.of mark = .transparent)
    (index : Nat) (before front : LeveledText) (c : Char) (level : Nat) (back : LeveledText) :
    shapeFrom index before (front ++ (c, level) :: (mark, level) :: back) =
      (shapeFrom index before (front ++ (c, level) :: back)).map
        (makeRoom (index + front.length)) := by
  induction front generalizing index before with
  | nil =>
    have hskip : placed (index + 1) ((c, level) :: before) mark level back = [] := by
      rw [placed, Forms.of?_eq_none hmark]
      rfl
    have hown : placed index before c level ((mark, level) :: back) =
        placed index before c level back := by
      unfold placed formBetween
      rw [neighbour?, if_pos rfl, if_pos hmark]
    rw [List.nil_append, List.nil_append, shapeFrom_cons, shapeFrom_cons, shapeFrom_cons, hskip,
      hown, List.nil_append, List.map_append, map_makeRoom_placed (Nat.le_add_right _ _),
      List.length_nil, Nat.add_zero, map_makeRoom_shapeFrom,
      shapeFrom_congr (alike_mark_before hmark c level before)]
  | cons first rest ih =>
    obtain ⟨d, l⟩ := first
    have hown : Alike (rest ++ (c, level) :: (mark, level) :: back) (rest ++ (c, level) :: back) :=
      (alike_mark_after hmark c level back).append rest
    rw [List.cons_append, List.cons_append, shapeFrom_cons, shapeFrom_cons, List.map_append,
      map_makeRoom_placed (Nat.le_add_right _ _), placed_congr (fun _ => rfl) hown, ih,
      List.length_cons, Nat.add_assoc, Nat.add_comm 1]

/-! ### A change of level -/

/-- Nothing is found behind a change of level. -/
theorem neighbour?_append_of_parts {c : Char} {level : Nat} {text other : LeveledText}
    (h : Parts ((c, level) :: text) other) :
    neighbour? level (text ++ other) = neighbour? level text := by
  induction text generalizing c with
  | nil =>
    cases other with
    | nil => rfl
    | cons first rest =>
      obtain ⟨d, l⟩ := first
      have hne : level ≠ l := h (c, level) rfl (d, l) rfl
      rw [List.nil_append, neighbour?, neighbour?, if_neg hne.symm]
  | cons entry rest ih =>
    obtain ⟨d, l⟩ := entry
    rw [List.cons_append, neighbour?, neighbour?]
    by_cases hlevel : l = level
    · subst hlevel
      rw [ih (c := d) (by simpa [Parts] using h)]
    · rw [if_neg hlevel, if_neg hlevel]

theorem shapeFrom_append_of_parts {front back : LeveledText} (h : Parts front back) (index : Nat)
    (before : LeveledText) :
    shapeFrom index before (front ++ back) =
      shapeFrom index before front ++
        shapeFrom (index + front.length) (front.reverse ++ before) back := by
  induction front generalizing index before with
  | nil => rfl
  | cons first rest ih =>
    obtain ⟨c, level⟩ := first
    have hrest : Parts rest back := by
      intro last hlast
      exact h last (by rw [Option.mem_def] at hlast; simp [List.getLast?_cons, hlast])
    have hown : placed index before c level (rest ++ back) = placed index before c level rest := by
      unfold placed formBetween
      rw [neighbour?_append_of_parts h]
    rw [List.cons_append, shapeFrom_cons, shapeFrom_cons, hown, ih hrest, List.append_assoc,
      List.length_cons, List.reverse_cons, List.append_assoc, Nat.add_assoc, Nat.add_comm 1]
    rfl

theorem shapeFrom_of_parts {before text other : LeveledText}
    (h : Parts (text.reverse ++ before) other) (index : Nat) :
    shapeFrom index (before ++ other) text = shapeFrom index before text := by
  induction text generalizing index before with
  | nil => rfl
  | cons first rest ih =>
    obtain ⟨c, level⟩ := first
    rw [List.reverse_cons, List.append_assoc, List.singleton_append] at h
    have hown : Parts ((c, level) :: before) other := by
      intro last hlast
      refine h last ?_
      rw [Option.mem_def] at hlast ⊢
      rw [List.getLast?_append, hlast]
      rfl
    have hplaced : placed index (before ++ other) c level rest =
        placed index before c level rest := by
      unfold placed formBetween
      rw [neighbour?_append_of_parts hown]
    rw [shapeFrom_cons, shapeFrom_cons, hplaced, ← List.cons_append, ih h]

/-- A change of level cuts a text in two that are shaped on their own. -/
theorem shape_append_of_parts {front back : LeveledText} (h : Parts front back) :
    shape (front ++ back) =
      shape front ++ (shape back).map fun entry => (front.length + entry.1, entry.2) := by
  have hback : Parts (back.reverse ++ []) front.reverse := by
    intro first hfirst last hlast
    rw [List.append_nil, List.getLast?_reverse] at hfirst
    rw [List.head?_reverse] at hlast
    exact (h last hlast first hfirst).symm
  have hown := shapeFrom_of_parts hback (front.length + 0)
  rw [List.nil_append] at hown
  unfold shape
  rw [shapeFrom_append_of_parts h, List.append_nil, Nat.zero_add, ← shapeFrom_add, ← hown]
  rfl

/-! ### The glyph of a letter -/

theorem getElem?_iff_exists_split {text : LeveledText} {i : Nat} {c : Char} {level : Nat} :
    text[i]? = some (c, level) ↔
      ∃ front rest, text = front ++ (c, level) :: rest ∧ front.length = i := by
  constructor
  · intro h
    obtain ⟨hi, hget⟩ := List.getElem?_eq_some_iff.1 h
    refine ⟨text.take i, text.drop (i + 1), ?_, List.length_take_of_le (Nat.le_of_lt hi)⟩
    rw [← hget, ← List.drop_eq_getElem_cons hi, List.take_append_drop]
  · rintro ⟨front, rest, rfl, rfl⟩
    simp

/-- A letter gets the glyph of its place between the texts before and after it. -/
theorem mem_shape_of_split {text front rest : LeveledText} {c : Char} {level : Nat}
    (htext : text = front ++ (c, level) :: rest) {glyph : Char} :
    (front.length, glyph) ∈ shape text ↔ ∃ forms, Forms.of? c = some forms ∧
      glyph = forms.glyph (formBetween c level front.reverse rest) := by
  unfold shape
  rw [mem_shapeFrom]
  constructor
  · rintro ⟨front', d, l, rest', hsplit, hplaced⟩
    obtain ⟨forms, hforms, hglyph⟩ := mem_placed.1 hplaced
    obtain ⟨hindex, rfl⟩ := Prod.mk.inj hglyph
    rw [Nat.zero_add] at hindex
    obtain ⟨rfl, hbehind⟩ := List.append_inj (hsplit.symm.trans htext) hindex
    obtain ⟨hown, rfl⟩ := List.cons.inj hbehind
    obtain ⟨rfl, rfl⟩ := Prod.mk.inj hown
    rw [List.append_nil]
    exact ⟨forms, hforms, rfl⟩
  · rintro ⟨forms, hforms, rfl⟩
    refine ⟨front, c, level, rest, htext, mem_placed.2 ⟨forms, hforms, ?_⟩⟩
    rw [Nat.zero_add, List.append_nil]

/-- The glyphs are those of the letters, in their order, and each has the form that the joins of
its letter ask for.  So a mark behind a character of its level changes no form, and a change of
level cuts the text in two that are shaped on their own: no letters join across it. -/
theorem shape_follows_joins (text : LeveledText) :
    (shape text).Pairwise (·.1 < ·.1) ∧
      (∀ i, (∃ glyph, (i, glyph) ∈ shape text) ↔
        ∃ c level forms, text[i]? = some (c, level) ∧ Forms.of? c = some forms) ∧
      (∀ i glyph, (i, glyph) ∈ shape text → ∃ c level forms form,
        text[i]? = some (c, level) ∧ Forms.of? c = some forms ∧ glyph = forms.glyph form ∧
          form.Fits (text.JoinedBefore i) (text.JoinedAfter i)) ∧
      (∀ front c level mark back, text = front ++ (c, level) :: back →
        JoiningType.of mark = .transparent →
        shape (front ++ (c, level) :: (mark, level) :: back) =
          (shape text).map (makeRoom front.length)) ∧
      ∀ front back, text = front ++ back → Parts front back →
        shape text =
          shape front ++ (shape back).map fun entry => (front.length + entry.1, entry.2) := by
  refine ⟨pairwise_shapeFrom 0 [] text, ?_, ?_, ?_, ?_⟩
  · intro i
    constructor
    · rintro ⟨glyph, hglyph⟩
      obtain ⟨front, c, level, rest, htext, hplaced⟩ := mem_shapeFrom.1 hglyph
      obtain ⟨forms, hforms, heq⟩ := mem_placed.1 hplaced
      obtain ⟨rfl, -⟩ := Prod.mk.inj heq
      refine ⟨c, level, forms, ?_, hforms⟩
      exact getElem?_iff_exists_split.2 ⟨front, rest, htext, (Nat.zero_add _).symm⟩
    · rintro ⟨c, level, forms, hi, hforms⟩
      obtain ⟨front, rest, htext, rfl⟩ := getElem?_iff_exists_split.1 hi
      exact ⟨_, (mem_shape_of_split htext).2 ⟨forms, hforms, rfl⟩⟩
  · intro i glyph hglyph
    obtain ⟨front, c, level, rest, htext, hplaced⟩ := mem_shapeFrom.1 hglyph
    obtain ⟨forms, hforms, heq⟩ := mem_placed.1 hplaced
    obtain ⟨rfl, rfl⟩ := Prod.mk.inj heq
    rw [Nat.zero_add, List.append_nil]
    refine ⟨c, level, forms, _, getElem?_iff_exists_split.2 ⟨front, rest, htext, rfl⟩, hforms, rfl,
      ?_⟩
    rw [LeveledText.joinedBefore_iff htext, LeveledText.joinedAfter_iff htext]
    exact Form.fits_ofJoins.2 rfl
  · rintro front c level mark back rfl hmark
    have hinsert := shapeFrom_insert hmark 0 [] front c level back
    rwa [Nat.zero_add] at hinsert
  · rintro front back rfl hparts
    exact shape_append_of_parts hparts

/-- Beh, fatha and beh join across the mark; a beh on another level stays alone. -/
example : shape [('\u0628', 1), ('\u064E', 1), ('\u0628', 1), ('\u0628', 3)] =
    [(0, '\uFE91'), (2, '\uFE90'), (3, '\uFE8F')] := by
  decide

end Shaping

end BidiViewport
