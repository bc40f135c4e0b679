import BidiViewport.Text.BidiClass

/-!
# Visual order of a line

Rules L1 and L2 on one line of a paragraph with resolved levels: white space at the
end of the line and before separators goes back to the paragraph level, then the
characters are put into visual order.
-/

namespace BidiViewport

namespace VisualOrder

/-- A separator that goes back to the paragraph level. -/
def isSeparator (c : BidiClass) : Bool :=
  c = .B || c = .S

/-- Within a line, characters that rule X9 takes out follow the character before
them, or the paragraph at the start of the line. -/
def followPrevious (paragraph previous : Nat) : List (BidiClass × Nat) → List (BidiClass × Nat)
  | [] => []
  | (c, level) :: rest =>
    let level := if c.isRemoved then previous else if isSeparator c then paragraph else level
    (c, level) :: followPrevious paragraph level rest

/-- The levels after rule L1, and whether white space right before them goes back to
the paragraph level. -/
def resetBlanks (paragraph : Nat) : List (BidiClass × Nat) → List Nat × Bool
  | [] => ([], true)
  | (c, level) :: rest =>
    let (levels, resetting) := resetBlanks paragraph rest
    if isSeparator c then (paragraph :: levels, true)
    else if c = .WS || c.isIsolateFormat || c.isRemoved then
      ((if resetting then paragraph else level) :: levels, resetting)
    else (level :: levels, false)

/-- Rule L1: the levels of a line. -/
def lineLevels (paragraph : Nat) (line : List (BidiClass × Nat)) : List Nat :=
  (resetBlanks paragraph (followPrevious paragraph paragraph line)).1

@[simp] theorem length_followPrevious (paragraph previous : Nat) (line : List (BidiClass × Nat)) :
    (followPrevious paragraph previous line).length = line.length := by
  induction line generalizing previous with
  | nil => rfl
  | cons c rest ih => simp [followPrevious, ih]

@[simp] theorem length_resetBlanks (paragraph : Nat) (line : List (BidiClass × Nat)) :
    (resetBlanks paragraph line).1.length = line.length := by
  induction line with
  | nil => rfl
  | cons c rest ih =>
    simp only [resetBlanks]
    split
    · simp [ih]
    · split <;> simp [ih]

@[simp] theorem length_lineLevels (paragraph : Nat) (line : List (BidiClass × Nat)) :
    (lineLevels paragraph line).length = line.length := by
  simp [lineLevels]

/-- Reverses every maximal run of entries whose level is at least `level`.  `run` is
the run being read, its last entry first. -/
def reverseRuns (level : Nat) (run : List (Nat × Nat)) : List (Nat × Nat) → List (Nat × Nat)
  | [] => run
  | entry :: rest =>
    if level ≤ entry.2 then reverseRuns level (entry :: run) rest
    else run ++ entry :: reverseRuns level [] rest

/-- Reversal at every level from `low + count - 1` down to `low`. -/
def reverseLevels (low : Nat) : (count : Nat) → List (Nat × Nat) → List (Nat × Nat)
  | 0, entries => entries
  | count + 1, entries => reverseLevels low count (reverseRuns (low + count) [] entries)

/-- The least odd level that is not below `level`. -/
def oddFrom (level : Nat) : Nat :=
  if level % 2 = 1 then level else level + 1

/-- Rule L2: the indices of a line's characters from left to right.  Runs are reversed
from the highest level down to the lowest odd one. -/
def ofLevels (levels : List Nat) : List Nat :=
  match levels.min?, levels.max? with
  | some low, some high =>
    let entries := (List.range levels.length).zip levels
    (reverseLevels (oddFrom low) (high + 1 - oddFrom low) entries).map (·.1)
  | _, _ => []

theorem reverseRuns_perm (level : Nat) (run entries : List (Nat × Nat)) :
    (reverseRuns level run entries).Perm (run ++ entries) := by
  induction entries generalizing run with
  | nil => simp [reverseRuns]
  | cons entry rest ih =>
    unfold reverseRuns
    split
    · exact (ih _).trans (List.perm_middle.symm)
    · exact List.Perm.append_left run ((ih []).cons entry)

theorem reverseLevels_perm (low count : Nat) (entries : List (Nat × Nat)) :
    (reverseLevels low count entries).Perm entries := by
  induction count generalizing entries with
  | zero => exact .refl _
  | succ count ih =>
    exact (ih _).trans (by simpa using reverseRuns_perm (low + count) [] entries)

/-- The visual order of a line is a permutation of its characters. -/
theorem ofLevels_perm (levels : List Nat) :
    (ofLevels levels).Perm (List.range levels.length) := by
  unfold ofLevels
  split
  · refine ((reverseLevels_perm _ _ _).map _).trans ?_
    rw [List.map_fst_zip (by simp)]
  · next h =>
    cases levels with
    | nil => simp
    | cons level rest => simp at h

end VisualOrder

end BidiViewport
