import BidiViewport.Grid.Scrollback

/-!
# The scrollback as a log

A scrollback numbers its rows like a log to which rows are only added, and keeps the newest ones
of it in a ring of slots.  `Scrollback.Logs` relates the ring to the log: each kept row is in
the slot of its number.  The log decides what the scrollback answers
(`Scrollback.Logs.row?_eq`); a scrollback that is large enough answers as the log itself
(`Scrollback.rowAt_extend_empty`).
-/

namespace BidiViewport

namespace Scrollback

/-- The scrollback keeps the newest rows of the log. -/
structure Logs (s : Scrollback) (log : List Row) : Prop where
  pushed : s.pushed = log.length
  size : s.slots.size = min log.length s.maxRows
  slot? : ∀ i, s.firstRow ≤ i → i < log.length → s.slots[i % s.maxRows]? = log[i]?

theorem logs_empty (maxRows : Nat) : (empty maxRows).Logs [] :=
  ⟨rfl, (Nat.zero_min _).symm, fun _ _ hi => absurd hi (Nat.not_lt_zero _)⟩

/-- Rows that are kept together have different slots. -/
theorem mod_ne {i j maxRows : Nat} (hlt : i < j) (hnear : j < i + maxRows) :
    i % maxRows ≠ j % maxRows := by
  intro hsame
  have hdistance : (j - i) % maxRows = 0 := Nat.sub_mod_eq_zero_of_mod_eq hsame.symm
  rw [Nat.mod_eq_of_lt (by omega)] at hdistance
  omega

namespace Logs

variable {s : Scrollback} {log : List Row}

theorem firstRow (h : s.Logs log) : s.firstRow = log.length - min log.length s.maxRows := by
  rw [Scrollback.firstRow, Scrollback.size, h.pushed, h.size]

theorem isFull_iff (h : s.Logs log) : s.isFull = true ↔ s.maxRows ≤ log.length := by
  unfold Scrollback.isFull Scrollback.size
  rw [decide_eq_true_iff, h.size]
  omega

/-! ## Pushing rows -/

theorem pushed_push (h : s.Logs log) (row : Row) :
    (s.push row).pushed = (log ++ [row]).length := by
  rw [List.length_append]
  exact congrArg (· + 1) h.pushed

/-- The newest row overwrites the slot of the oldest one. -/
theorem push_of_full (h : s.Logs log) (row : Row) (hfull : s.maxRows ≤ log.length) :
    (s.push row).Logs (log ++ [row]) := by
  have hpos := s.maxRows_pos
  have hmax : (s.push row).maxRows = s.maxRows := rfl
  have hslots : (s.push row).slots = s.slots.setIfInBounds (log.length % s.maxRows) row := by
    rw [← h.pushed]
    exact if_pos (h.isFull_iff.2 hfull)
  have hsize : (s.push row).slots.size = min (log ++ [row]).length (s.push row).maxRows := by
    rw [hslots, Array.size_setIfInBounds, h.size, hmax, List.length_append]
    omega
  refine ⟨h.pushed_push row, hsize, fun i hkept hi => ?_⟩
  rw [Scrollback.firstRow, Scrollback.size, h.pushed_push, hsize, hmax, List.length_append,
    List.length_singleton] at hkept
  rw [List.length_append, List.length_singleton] at hi
  rw [hslots, hmax, Array.getElem?_setIfInBounds]
  rcases Nat.lt_or_ge i log.length with hold | hnew
  · rw [if_neg (mod_ne hold (by omega)).symm, List.getElem?_append_left hold]
    refine h.slot? i ?_ hold
    rw [h.firstRow]
    omega
  · obtain rfl : i = log.length := by omega
    have hslot : log.length % s.maxRows < s.slots.size := by
      have := Nat.mod_lt log.length hpos
      rw [h.size]
      omega
    rw [if_pos rfl, if_pos hslot, List.getElem?_concat_length]

/-- As long as there is room, the slots are the log. -/
theorem push_of_room (h : s.Logs log) (row : Row) (hroom : log.length < s.maxRows) :
    (s.push row).Logs (log ++ [row]) := by
  have hmax : (s.push row).maxRows = s.maxRows := rfl
  have hslots : (s.push row).slots = s.slots.push row :=
    if_neg fun hfull => Nat.not_le.2 hroom (h.isFull_iff.1 hfull)
  have hsize : s.slots.size = log.length := by
    rw [h.size]
    omega
  refine ⟨h.pushed_push row, ?_, fun i _ hi => ?_⟩
  · rw [hslots, Array.size_push, hsize, hmax, List.length_append, List.length_singleton]
    omega
  · rw [List.length_append, List.length_singleton] at hi
    rw [hslots, hmax, Nat.mod_eq_of_lt (by omega), Array.getElem?_push, hsize]
    rcases Nat.lt_or_ge i log.length with hold | hnew
    · have hslot := h.slot? i (by rw [h.firstRow]; omega) hold
      rw [Nat.mod_eq_of_lt (by omega)] at hslot
      rw [if_neg (by omega), List.getElem?_append_left hold, hslot]
    · obtain rfl : i = log.length := by omega
      rw [if_pos rfl, List.getElem?_concat_length]

theorem push (h : s.Logs log) (row : Row) : (s.push row).Logs (log ++ [row]) := by
  rcases Nat.lt_or_ge log.length s.maxRows with hroom | hfull
  · exact h.push_of_room row hroom
  · exact h.push_of_full row hfull

theorem extend (h : s.Logs log) (rows : List Row) : (s.extend rows).Logs (log ++ rows) := by
  induction rows generalizing s log with
  | nil =>
    rw [List.append_nil]
    exact h
  | cons row rest ih =>
    rw [List.append_cons]
    exact ih (h.push row)

/-! ## Changing a row -/

theorem nextRow_eq (h : s.Logs log) : s.nextRow = log.length := h.pushed

theorem retains_iff (h : s.Logs log) (i : Nat) :
    s.retains i = true ↔ s.firstRow ≤ i ∧ i < log.length := by
  unfold Scrollback.retains
  rw [Bool.and_eq_true, decide_eq_true_iff, decide_eq_true_iff, h.nextRow_eq]

/-- A row that is kept has its slot alone, so no other row is changed with it. -/
theorem modify (h : s.Logs log) {index : Nat} (f : Row → Row) (hkept : s.firstRow ≤ index) :
    (s.modify index f).Logs (log.modify index f) := by
  unfold Scrollback.modify
  split
  · next hretains =>
    have hindex := ((h.retains_iff index).1 hretains).2
    refine ⟨?_, ?_, fun i hi hlt => ?_⟩
    · rw [List.length_modify]
      exact h.pushed
    · rw [List.length_modify]
      exact Array.size_modify.trans h.size
    · have hi : s.firstRow ≤ i := by
        rw [Scrollback.firstRow, Scrollback.size, Array.size_modify] at hi
        exact hi
      rw [List.length_modify] at hlt
      have hfirst := h.firstRow
      have hslot := h.slot? i hi hlt
      rw [Array.getElem?_modify, hslot, List.getElem?_modify]
      by_cases hsame : index = i
      · subst hsame
        rw [if_pos rfl]
        simp
      · rw [if_neg]
        · simp [hsame]
        · rcases Nat.lt_or_gt_of_ne hsame with hlow | hhigh
          · exact mod_ne hlow (by omega)
          · exact (mod_ne hhigh (by omega)).symm
  · next hgone =>
    have hbeyond : log.length ≤ index :=
      Nat.le_of_not_lt fun hlt => hgone ((h.retains_iff index).2 ⟨hkept, hlt⟩)
    rw [List.modify_eq_self hbeyond]
    exact h

/-! ## Looking rows up -/

/-- The rows of the log from the oldest kept one on are there. -/
theorem row?_eq (h : s.Logs log) (i : Nat) :
    s.row? i = if s.firstRow ≤ i then log[i]? else none := by
  unfold row? retains nextRow
  rw [h.pushed]
  by_cases hkept : s.firstRow ≤ i
  · by_cases hi : i < log.length
    · simp [hkept, hi, h.slot? i hkept hi]
    · simp [hkept, hi]
  · simp [hkept]

end Logs

theorem maxRows_extend (s : Scrollback) (rows : List Row) :
    (s.extend rows).maxRows = s.maxRows := by
  induction rows generalizing s with
  | nil => rfl
  | cons row rest ih => exact ih (s.push row)

theorem firstRow_extend_empty {maxRows : Nat} {rows : List Row}
    (h : rows.length ≤ max 1 maxRows) :
    ((empty maxRows).extend rows).firstRow = 0 := by
  have hmax : ((empty maxRows).extend rows).maxRows = max 1 maxRows := maxRows_extend _ _
  rw [((logs_empty maxRows).extend rows).firstRow, hmax, List.nil_append]
  omega

/-- A scrollback that never had to evict a row has all of them. -/
theorem rowAt_extend_empty {maxRows : Nat} {rows : List Row}
    (h : rows.length ≤ max 1 maxRows) (i : Nat) :
    ((empty maxRows).extend rows).source.rowAt i = rows[i]? := by
  have hlogs := ((logs_empty maxRows).extend rows).row?_eq i
  rw [firstRow_extend_empty h, if_pos (Nat.zero_le i), List.nil_append] at hlogs
  exact hlogs

end Scrollback

end BidiViewport
