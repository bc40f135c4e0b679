import Mathlib.Data.List.SplitBy
import BidiViewport.Classifier.Unicode

/-!
# Levels of a paragraph

Every character of a paragraph has the level of the paragraph, or that of the scope in which it
stands, raised by what the weak and neutral rules make of it
(`exists_placed_of_mem_paragraphLevels`).  The weak and neutral rules choose among classes, and how
they choose does not matter here.

* No level is below that of the paragraph (`le_of_mem_paragraphLevels`): no scope is
  (`Embedding.Nesting.IsOver`), and raising does not lower a level.
* Where no character opens a scope, all characters of a right-to-left paragraph are on its level or
  on the next one (`eq_or_eq_of_mem_paragraphLevels`).
-/

namespace BidiViewport

/-- Characters that open an embedding, an override or an isolate. -/
def BidiClass.opensScope : BidiClass → Bool
  | .LRE | .LRO | .RLE | .RLO | .LRI | .RLI | .FSI => true
  | _ => false

namespace Embedding

/-! ## Scopes -/

/-- The nesting is one of a paragraph of this level, and no open scope is below it. -/
structure Nesting.IsOver (n : Nesting) (paragraph : Nat) : Prop where
  paragraph_eq : n.paragraph = paragraph
  le_level : ∀ scope ∈ n.scopes, paragraph ≤ scope.level

theorem Nesting.level_lt_nextLevel (n : Nesting) (direction : Direction) :
    n.level < n.nextLevel direction := by
  cases direction with
  | ltr =>
    simp only [nextLevel]
    omega
  | rtl =>
    simp only [nextLevel]
    omega

namespace Nesting.IsOver

variable {n : Nesting} {paragraph : Nat}

theorem start (paragraph : Nat) : (Nesting.start paragraph).IsOver paragraph := by
  refine ⟨rfl, ?_⟩
  intro scope hscope
  cases hscope

theorem le_current (h : n.IsOver paragraph) : paragraph ≤ n.level := by
  unfold level current
  cases hscopes : n.scopes with
  | nil => exact Nat.le_of_eq h.paragraph_eq.symm
  | cons scope outer => exact h.le_level scope (by rw [hscopes]; exact List.mem_cons_self)

theorem enter (h : n.IsOver paragraph) (direction : Direction) (override : Option Direction)
    (isIsolate : Bool) : (n.enter direction override isIsolate).IsOver paragraph := by
  unfold Nesting.enter
  dsimp only
  split
  · refine ⟨h.paragraph_eq, ?_⟩
    intro scope hscope
    rcases List.mem_cons.1 hscope with rfl | houter
    · exact Nat.le_trans h.le_current (Nat.le_of_lt (n.level_lt_nextLevel direction))
    · exact h.le_level scope houter
  · split
    · exact ⟨h.paragraph_eq, h.le_level⟩
    · split
      · exact ⟨h.paragraph_eq, h.le_level⟩
      · exact h

theorem leaveIsolate (h : n.IsOver paragraph) : n.leaveIsolate.IsOver paragraph := by
  unfold Nesting.leaveIsolate
  split
  · exact ⟨h.paragraph_eq, h.le_level⟩
  · split
    · refine ⟨h.paragraph_eq, ?_⟩
      intro scope hscope
      exact h.le_level scope ((List.dropWhile_sublist _).subset (List.mem_of_mem_drop hscope))
    · exact h

theorem leaveEmbedding (h : n.IsOver paragraph) : n.leaveEmbedding.IsOver paragraph := by
  unfold Nesting.leaveEmbedding
  split
  · exact h
  · split
    · exact ⟨h.paragraph_eq, h.le_level⟩
    · split
      · next scope outer hscopes =>
        split
        · exact h
        · refine ⟨h.paragraph_eq, ?_⟩
          intro inner hinner
          exact h.le_level inner (by rw [hscopes]; exact List.mem_cons_of_mem _ hinner)
      · exact h

/-- No character leads below the paragraph, nor stands below it. -/
theorem step (h : n.IsOver paragraph) (c : BidiClass) :
    paragraph ≤ (step n c).1.level ∧ (step n c).2.IsOver paragraph := by
  cases c with
  | LRE => exact ⟨h.le_current, h.enter _ _ _⟩
  | RLE => exact ⟨h.le_current, h.enter _ _ _⟩
  | LRO => exact ⟨h.le_current, h.enter _ _ _⟩
  | RLO => exact ⟨h.le_current, h.enter _ _ _⟩
  | LRI => exact ⟨h.le_current, h.enter _ _ _⟩
  | RLI => exact ⟨h.le_current, h.enter _ _ _⟩
  | FSI => exact ⟨h.le_current, h.enter _ _ _⟩
  | PDI => exact ⟨h.leaveIsolate.le_current, h.leaveIsolate⟩
  | PDF => exact ⟨h.le_current, h.leaveEmbedding⟩
  | B => exact ⟨Nat.le_of_eq h.paragraph_eq.symm, h⟩
  | _ => exact ⟨h.le_current, h⟩

end Nesting.IsOver

/-- Outside all scopes, a character that opens none stays there. -/
theorem step_start {paragraph : Nat} {c : BidiClass} (h : c.opensScope = false) :
    (step (.start paragraph) c).1.level = paragraph ∧
      (step (.start paragraph) c).2 = .start paragraph := by
  cases c with
  | LRE | RLE | LRO | RLO | LRI | RLI | FSI => cases h
  | _ => exact ⟨rfl, rfl⟩

/-- What every character keeps of the nesting holds along the text. -/
theorem forall_mem_placeFrom {I : Nesting → Prop} {P : Placed → Prop} {n : Nesting}
    {classes : List BidiClass}
    (hstep : ∀ n c, I n → c ∈ classes → P (step n c).1 ∧ I (step n c).2) (hn : I n) :
    ∀ placed ∈ placeFrom n classes, P placed := by
  induction classes generalizing n with
  | nil =>
    intro placed hplaced
    cases hplaced
  | cons c rest ih =>
    intro placed hplaced
    obtain ⟨hown, hnext⟩ := hstep n c hn List.mem_cons_self
    rcases List.mem_cons.1 hplaced with rfl | hlater
    · exact hown
    · exact ih (fun n c hn hc => hstep n c hn (List.mem_cons_of_mem _ hc)) hnext placed hlater

theorem le_level_of_mem_placeFrom {paragraph : Nat} {classes : List BidiClass} {placed : Placed}
    (h : placed ∈ placeFrom (.start paragraph) classes) : paragraph ≤ placed.level :=
  forall_mem_placeFrom (I := (·.IsOver paragraph)) (P := (paragraph ≤ ·.level))
    (fun _ c hn _ => hn.step c) (.start paragraph) placed h

theorem level_eq_of_mem_placeFrom {paragraph : Nat} {classes : List BidiClass} {placed : Placed}
    (hplain : ∀ c ∈ classes, c.opensScope = false)
    (h : placed ∈ placeFrom (.start paragraph) classes) : placed.level = paragraph := by
  refine forall_mem_placeFrom (I := (· = .start paragraph)) (P := (·.level = paragraph)) ?_ rfl
    placed h
  rintro _ c rfl hc
  exact step_start (hplain c hc)

/-- Without first-strong isolates there is nothing to settle. -/
theorem settleIsolates_eq_self {classes : List BidiClass}
    (hplain : ∀ c ∈ classes, c.opensScope = false) : settleIsolates classes = classes := by
  induction classes with
  | nil => rfl
  | cons c rest ih =>
    have hown := hplain c List.mem_cons_self
    have hrest := ih fun c hc => hplain c (List.mem_cons_of_mem _ hc)
    cases c with
    | FSI => cases hown
    | _ => exact congrArg _ hrest

end Embedding

/-! ## Runs and sequences -/

theorem Kept.exists_of_mem_keepFrom {paragraph before index : Nat}
    {placed : List (Char × Embedding.Placed)} {k : Kept}
    (h : k ∈ keepFrom paragraph before index placed) : ∃ p ∈ placed, k.level = p.2.level := by
  induction placed generalizing before index with
  | nil => cases h
  | cons p rest ih =>
    rw [keepFrom] at h
    split at h
    · obtain ⟨q, hq, hlevel⟩ := ih h
      exact ⟨q, List.mem_cons_of_mem _ hq, hlevel⟩
    · rcases List.mem_cons.1 h with rfl | hlater
      · exact ⟨p, List.mem_cons_self, rfl⟩
      · obtain ⟨q, hq, hlevel⟩ := ih hlater
        exact ⟨q, List.mem_cons_of_mem _ hq, hlevel⟩

/-- Linking makes sequences of the characters that it is given. -/
theorem forall_mem_linkRuns {P : Kept → Prop} {waiting : List (List Kept)} {runs : List LevelRun}
    (hwaiting : ∀ sequence ∈ waiting, ∀ k ∈ sequence, P k) (hruns : ∀ run ∈ runs, ∀ k ∈ run, P k) :
    ∀ sequence ∈ linkRuns waiting runs, ∀ k ∈ sequence, P k := by
  induction runs generalizing waiting with
  | nil => exact hwaiting
  | cons run rest ih =>
    have hrun := hruns run List.mem_cons_self
    have hrest : ∀ run ∈ rest, ∀ k ∈ run, P k := fun run h => hruns run (List.mem_cons_of_mem _ h)
    -- A sequence goes on to wait or is done, with those that wait behind it.
    have hnext {own : List Kept} {outer : List (List Kept)} (hown : ∀ k ∈ own, P k)
        (houter : ∀ sequence ∈ outer, ∀ k ∈ sequence, P k) :
        ∀ sequence ∈ if run.endsWithInitiator then linkRuns (own :: outer) rest
          else own :: linkRuns outer rest, ∀ k ∈ sequence, P k := by
      split
      · exact ih (List.forall_mem_cons.2 ⟨hown, houter⟩) hrest
      · exact List.forall_mem_cons.2 ⟨hown, ih houter hrest⟩
    cases waiting with
    | nil => exact hnext hrun hwaiting
    | cons open_ outer =>
      obtain ⟨hopen, houter⟩ := List.forall_mem_cons.1 hwaiting
      unfold linkRuns
      cases run.startsWithPop with
      | true => exact hnext (List.forall_mem_append.2 ⟨hopen, hrun⟩) houter
      | false => exact hnext hrun hwaiting

theorem mem_kept_of_mem_runSequences {paragraph : Nat} {kept : List Kept} {s : RunSequence}
    (h : s ∈ runSequences paragraph kept) : ∀ k ∈ s.kept, k ∈ kept := by
  intro k hk
  obtain ⟨sequence, hsequence, rfl⟩ := List.mem_map.1 h
  have hsame : (RunSequence.ofKept paragraph sequence).kept = sequence := by
    unfold RunSequence.ofKept
    split <;> rfl
  rw [hsame] at hk
  refine forall_mem_linkRuns (P := (· ∈ kept)) ?_ ?_ sequence hsequence k hk
  · intro sequence hwaiting
    cases hwaiting
  · intro run hrun k hk
    rw [← List.flatten_splitBy (fun a b => a.level == b.level) kept]
    exact List.mem_flatten.2 ⟨run, hrun, hk⟩

namespace Levels

/-! ## Raised levels -/

theorem le_raise (level : Nat) (c : BidiClass) : level ≤ raise level c := by
  unfold raise
  split <;> omega

theorem raise_one (c : BidiClass) : raise 1 c = 1 ∨ raise 1 c = 2 := by
  cases c <;> decide

theorem exists_of_mem_ofSequence {s : RunSequence} {pair : Nat × Nat} (h : pair ∈ ofSequence s) :
    ∃ k ∈ s.kept, ∃ c, pair.2 = raise k.level c := by
  unfold ofSequence at h
  dsimp only at h
  rw [← List.map_uncurry_zip_eq_zipWith] at h
  obtain ⟨⟨k, c⟩, hmem, rfl⟩ := List.mem_map.1 h
  exact ⟨k, (List.of_mem_zip hmem).1, c, rfl⟩

/-- Each level of an array that levels were written to was there before or is one of these. -/
theorem mem_foldl_setIfInBounds {pairs : List (Nat × Nat)} {levels : Array Nat} {level : Nat}
    (h : level ∈ pairs.foldl (fun (levels : Array Nat) (p : Nat × Nat) =>
      levels.setIfInBounds p.1 p.2) levels) : level ∈ levels ∨ ∃ p ∈ pairs, p.2 = level := by
  induction pairs generalizing levels with
  | nil => exact .inl h
  | cons p rest ih =>
    rcases ih h with hset | ⟨q, hq, hlevel⟩
    · rcases Array.mem_or_eq_of_mem_setIfInBounds hset with hold | rfl
      · exact .inl hold
      · exact .inr ⟨p, List.mem_cons_self, rfl⟩
    · exact .inr ⟨q, List.mem_cons_of_mem _ hq, hlevel⟩

theorem mem_fillRemoved {previous level : Nat} {cs : List (BidiClass × Nat)}
    (h : level ∈ fillRemoved previous cs) : level = previous ∨ ∃ c ∈ cs, c.2 = level := by
  induction cs generalizing previous with
  | nil => cases h
  | cons c rest ih =>
    have hown : (if c.1.isRemoved then previous else c.2) = previous ∨
        (if c.1.isRemoved then previous else c.2) = c.2 := by
      split
      · exact .inl rfl
      · exact .inr rfl
    rcases List.mem_cons.1 h with rfl | hlater
    · rcases hown with hprevious | hlevel
      · exact .inl hprevious
      · exact .inr ⟨c, List.mem_cons_self, hlevel.symm⟩
    · rcases ih hlater with rfl | ⟨d, hd, hlevel⟩
      · rcases hown with hprevious | hlevel
        · exact .inl hprevious
        · exact .inr ⟨c, List.mem_cons_self, hlevel.symm⟩
      · exact .inr ⟨d, List.mem_cons_of_mem _ hd, hlevel⟩

end Levels

/-! ## Levels of a text -/

variable {paragraph level : Nat} {text : List Char}

/-- Every level is that of the paragraph or of a scope, raised by a class. -/
theorem exists_placed_of_mem_paragraphLevels (h : level ∈ paragraphLevels paragraph text) :
    level = paragraph ∨ ∃ placed ∈ Embedding.placeFrom (.start paragraph)
        (Embedding.settleIsolates (text.map BidiClass.of)),
      ∃ c, level = Levels.raise placed.level c := by
  unfold paragraphLevels at h
  dsimp only at h
  rcases Levels.mem_fillRemoved h with rfl | ⟨c, hc, rfl⟩
  · exact .inl rfl
  · have hlevel := Array.mem_toList_iff.1 (List.of_mem_zip hc).2
    rcases Levels.mem_foldl_setIfInBounds hlevel with hunset | ⟨pair, hpair, hsame⟩
    · exact .inl (Array.eq_of_mem_replicate hunset)
    · obtain ⟨s, hs, hmem⟩ := List.mem_flatMap.1 hpair
      obtain ⟨k, hk, raised, hraised⟩ := Levels.exists_of_mem_ofSequence hmem
      obtain ⟨p, hp, hplaced⟩ :=
        Kept.exists_of_mem_keepFrom (mem_kept_of_mem_runSequences hs k hk)
      refine .inr ⟨p.2, (List.of_mem_zip hp).2, raised, ?_⟩
      rw [← hsame, hraised, hplaced]

theorem le_of_mem_paragraphLevels (h : level ∈ paragraphLevels paragraph text) :
    paragraph ≤ level := by
  rcases exists_placed_of_mem_paragraphLevels h with rfl | ⟨placed, hplaced, c, rfl⟩
  · exact Nat.le_refl _
  · exact Nat.le_trans (Embedding.le_level_of_mem_placeFrom hplaced) (Levels.le_raise _ c)

/-- In a right-to-left paragraph without embeddings, overrides and isolates, what is not on the
level of the paragraph is on the left-to-right level above it. -/
theorem eq_or_eq_of_mem_paragraphLevels (hplain : ∀ c ∈ text, (BidiClass.of c).opensScope = false)
    (h : level ∈ paragraphLevels 1 text) : level = 1 ∨ level = 2 := by
  have hclasses : ∀ c ∈ text.map BidiClass.of, c.opensScope = false := by
    intro c hc
    obtain ⟨char, hchar, rfl⟩ := List.mem_map.1 hc
    exact hplain char hchar
  rcases exists_placed_of_mem_paragraphLevels h with rfl | ⟨placed, hplaced, c, rfl⟩
  · exact .inl rfl
  · rw [Embedding.settleIsolates_eq_self hclasses] at hplaced
    rw [Embedding.level_eq_of_mem_placeFrom hclasses hplaced]
    exact Levels.raise_one c

end BidiViewport
