import BidiViewport.Layout.Chain

/-!
# Chains

What the bounded searches of a layout pass find, said of the rows alone.

* `Chain.IsTail`: a row and the rows below it up to the end of their chain, with no bound.
  `Chain.tail` reads exactly these when they are within the limit (`Chain.IsTail.tail_eq`).
* `Chain.depth`: how many rows of its chain are above a row, with no bound.  The search for
  the first row succeeds exactly below the limit, and finds the first row
  (`Chain.head?_eq`).
* In a scrollback every chain ends (`Scrollback.exists_isTail`).
-/

namespace BidiViewport

/-- A source has no rows before its first one. -/
def RowSource.StartsAtFirst (source : RowSource) : Prop :=
  ∀ row, row < source.firstRow → source.rowAt row = none

theorem RowSource.isWrapped_of_rowAt {source : RowSource} {row : Nat} {content : Row}
    (h : source.rowAt row = some content) : source.isWrapped row = content.softWrapped := by
  unfold RowSource.isWrapped
  rw [h]
  exact Option.any_some

theorem RowSource.isWrapped_of_missing {source : RowSource} {row : Nat}
    (h : source.rowAt row = none) : source.isWrapped row = false := by
  unfold RowSource.isWrapped
  rw [h]
  exact Option.any_none

theorem RowSource.isSome_of_isWrapped {row : Nat} (source : RowSource)
    (h : source.isWrapped row = true) : (source.rowAt row).isSome = true := by
  cases hrow : source.rowAt row with
  | none =>
    rw [isWrapped_of_missing hrow] at h
    cases h
  | some content => rfl

namespace Chain

/-! ## The rest of a chain -/

theorem tail_of_missing {source : RowSource} {row : Nat} (h : source.rowAt row = none)
    (limit : Nat) : tail source limit row = { rows := [], isOverlong := false, reads := [row] } := by
  cases limit with
  | zero =>
    unfold tail
    rw [h]
    rfl
  | succ limit =>
    unfold tail
    rw [h]

/-- The row `row` of a source and the rows below it up to the end of their chain: all but
the last one are soft-wrapped, and the last one is not or has no row below it. -/
inductive IsTail (source : RowSource) : Nat → List Row → Prop
  | last {row : Nat} {content : Row} (hrow : source.rowAt row = some content)
      (hend : content.softWrapped = false ∨ source.rowAt (row + 1) = none) :
      IsTail source row [content]
  | more {row : Nat} {content : Row} {rest : List Row}
      (hrow : source.rowAt row = some content) (hwrapped : content.softWrapped = true)
      (hrest : IsTail source (row + 1) rest) : IsTail source row (content :: rest)

namespace IsTail

variable {source : RowSource} {row : Nat} {rows : List Row}

theorem rowAt_add (h : IsTail source row rows) {i : Nat} {content : Row}
    (hi : rows[i]? = some content) : source.rowAt (row + i) = some content := by
  induction h generalizing i with
  | last hrow _ =>
    cases i with
    | zero =>
      obtain rfl := Option.some.inj hi
      exact hrow
    | succ i => cases hi
  | @more row _ rest hrow _ _ ih =>
    cases i with
    | zero =>
      obtain rfl := Option.some.inj hi
      exact hrow
    | succ i =>
      rw [show row + (i + 1) = row + 1 + i by omega]
      exact ih (by simpa using hi)

theorem exists_head (h : IsTail source row rows) :
    ∃ content rest, rows = content :: rest ∧ source.rowAt row = some content := by
  cases h with
  | last hrow _ => exact ⟨_, _, rfl, hrow⟩
  | more hrow _ _ => exact ⟨_, _, rfl, hrow⟩

theorem isWrapped_add (h : IsTail source row rows) {i : Nat} (hi : i + 1 < rows.length) :
    source.isWrapped (row + i) = true := by
  induction h generalizing i with
  | last _ _ => simp at hi
  | @more row _ rest hrow hwrapped _ ih =>
    cases i with
    | zero => rw [Nat.add_zero, RowSource.isWrapped_of_rowAt hrow, hwrapped]
    | succ i =>
      rw [show row + (i + 1) = row + 1 + i by omega]
      exact ih (by simpa using hi)

/-! ### Reading downwards -/

/-- Reading with a limit takes as many rows of the chain and sees whether there are more. -/
theorem tail_eq (h : IsTail source row rows) (limit : Nat) : ∃ reads, tail source limit row =
    { rows := rows.take limit, isOverlong := decide (limit < rows.length), reads } := by
  induction h generalizing limit with
  | @last row content hrow hend =>
    cases limit with
    | zero =>
      unfold tail
      rw [hrow]
      exact ⟨_, rfl⟩
    | succ limit =>
      unfold tail
      rw [hrow]
      by_cases hwrapped : content.softWrapped = true
      · have hmissing : source.rowAt (row + 1) = none := hend.resolve_left (by simp [hwrapped])
        rw [tail_of_missing hmissing]
        simp [hwrapped]
      · simp [hwrapped]
  | @more row _ _ hrow hwrapped _ ih =>
    cases limit with
    | zero =>
      refine ⟨[row], ?_⟩
      unfold tail
      rw [hrow]
      simp
    | succ limit =>
      obtain ⟨reads, hrest⟩ := ih limit
      refine ⟨row :: reads, ?_⟩
      unfold tail
      rw [hrow]
      dsimp only
      rw [if_pos hwrapped, hrest]
      simp

theorem length_pos (h : IsTail source row rows) : 0 < rows.length := by
  obtain ⟨content, rest, rfl, -⟩ := h.exists_head
  exact Nat.succ_pos _

theorem unique {rows' : List Row} (h : IsTail source row rows) (h' : IsTail source row rows') :
    rows = rows' := by
  obtain ⟨reads, htail⟩ := h.tail_eq (rows.length + rows'.length)
  obtain ⟨reads', htail'⟩ := h'.tail_eq (rows.length + rows'.length)
  have hrows := congrArg Tail.rows (htail.symm.trans htail')
  rwa [List.take_of_length_le (by omega), List.take_of_length_le (by omega)] at hrows

end IsTail

/-! ## Rows that lead to a row -/

/-- Soft-wrapped rows lead from `head` down to `row`. -/
structure Leads (source : RowSource) (head row : Nat) : Prop where
  le : head ≤ row
  isWrapped : ∀ above, head ≤ above → above < row → source.isWrapped above = true

namespace Leads

variable {source : RowSource} {head row : Nat}

theorem refl (source : RowSource) (row : Nat) : Leads source row row :=
  ⟨Nat.le_refl row, fun _ hle hlt => absurd hlt (Nat.not_lt.2 hle)⟩

theorem succ (h : Leads source head row) (hrow : source.isWrapped row = true) :
    Leads source head (row + 1) := by
  refine ⟨Nat.le_succ_of_le h.le, fun above hhead habove => ?_⟩
  rcases Nat.lt_succ_iff_lt_or_eq.1 habove with hlt | rfl
  · exact h.isWrapped above hhead hlt
  · exact hrow

theorem isSome (h : Leads source head row) {above : Nat} (hhead : head ≤ above)
    (habove : above < row) : (source.rowAt above).isSome = true :=
  source.isSome_of_isWrapped (h.isWrapped above hhead habove)

theorem isSome_head (h : Leads source head row) (hrow : (source.rowAt row).isSome = true) :
    (source.rowAt head).isSome = true := by
  rcases Nat.eq_or_lt_of_le h.le with rfl | hlt
  · exact hrow
  · exact h.isSome (Nat.le_refl head) hlt

end Leads

/-! ## Rows that a paragraph takes -/

section Walk

variable {source : RowSource} {row : Nat}

/-- A walk goes on only past soft-wrapped rows. -/
theorem isWrapped_of_walk {most i : Nat} (hi : i + 1 < (walk source most row).length) :
    source.isWrapped (row + i) = true := by
  induction most generalizing row i with
  | zero => simp [walk] at hi
  | succ most ih =>
    unfold walk at hi
    split at hi
    · next hwrapped =>
      cases i with
      | zero => exact hwrapped
      | succ i =>
        rw [show row + (i + 1) = row + 1 + i by omega]
        exact ih (by simpa using hi)
    · simp at hi

/-- A walk that was not cut short ends at a row that is not soft-wrapped. -/
theorem walk_ends {most : Nat} (h : (walk source most row).length < most) :
    source.isWrapped (row + (walk source most row).length - 1) = false := by
  induction most generalizing row with
  | zero => omega
  | succ most ih =>
    unfold walk at h ⊢
    by_cases hwrapped : source.isWrapped row = true
    · rw [if_pos hwrapped, List.length_cons] at h ⊢
      rw [show row + ((walk source most (row + 1)).length + 1) - 1 =
        row + 1 + (walk source most (row + 1)).length - 1 by omega]
      exact ih (by omega)
    · rw [if_neg hwrapped]
      simpa using hwrapped

/-- A walk takes every row that soft-wrapped rows lead to. -/
theorem lt_length_walk {most i : Nat} (hi : i < most)
    (hwrapped : ∀ j < i, source.isWrapped (row + j) = true) :
    i < (walk source most row).length := by
  induction most generalizing row i with
  | zero => omega
  | succ most ih =>
    unfold walk
    cases i with
    | zero => simp
    | succ i =>
      have hfirst : source.isWrapped row = true := hwrapped 0 (by omega)
      rw [if_pos hfirst, List.length_cons]
      refine Nat.succ_lt_succ (ih (by omega) fun j hj => ?_)
      rw [show row + 1 + j = row + (j + 1) by omega]
      exact hwrapped (j + 1) (by omega)

/-- Reading goes on only past soft-wrapped rows. -/
theorem isWrapped_of_tail_reads {limit i : Nat}
    (hi : i + 1 < (tail source limit row).reads.length) :
    source.isWrapped (row + i) = true := by
  induction limit generalizing row i with
  | zero => simp [tail] at hi
  | succ limit ih =>
    unfold tail at hi
    cases hrow : source.rowAt row with
    | none => simp [hrow] at hi
    | some content =>
      rw [hrow] at hi
      dsimp only at hi
      split at hi
      · next hwrapped =>
        cases i with
        | zero => rw [Nat.add_zero, RowSource.isWrapped_of_rowAt hrow, hwrapped]
        | succ i =>
          rw [show row + (i + 1) = row + 1 + i by omega]
          exact ih (by simpa using hi)
      · simp at hi

theorem length_rows_tail (source : RowSource) (limit row : Nat) :
    (tail source limit row).rows.length ≤ limit := by
  induction limit generalizing row with
  | zero => exact Nat.le_refl 0
  | succ limit ih =>
    unfold tail
    split
    · exact Nat.zero_le _
    · split
      · exact Nat.succ_le_succ (ih (row + 1))
      · exact Nat.succ_le_succ (Nat.zero_le limit)

/-- Every row that is found has been read. -/
theorem length_rows_le_length_reads (source : RowSource) (limit row : Nat) :
    (tail source limit row).rows.length ≤ (tail source limit row).reads.length := by
  induction limit generalizing row with
  | zero => simp [tail]
  | succ limit ih =>
    unfold tail
    cases source.rowAt row with
    | none => simp
    | some content =>
      dsimp only
      split
      · simpa using ih (row + 1)
      · simp

theorem isWrapped_of_tail {limit i : Nat} (hi : i + 1 < (tail source limit row).rows.length) :
    source.isWrapped (row + i) = true :=
  isWrapped_of_tail_reads (Nat.lt_of_lt_of_le hi (length_rows_le_length_reads source limit row))

theorem rowAt_of_tail {limit i : Nat} {content : Row}
    (hi : (tail source limit row).rows[i]? = some content) :
    source.rowAt (row + i) = some content := by
  induction limit generalizing row i with
  | zero => simp [tail] at hi
  | succ limit ih =>
    unfold tail at hi
    cases hrow : source.rowAt row with
    | none => simp [hrow] at hi
    | some first =>
      rw [hrow] at hi
      dsimp only at hi
      split at hi
      · cases i with
        | zero =>
          obtain rfl := Option.some.inj hi
          exact hrow
        | succ i =>
          rw [show row + (i + 1) = row + 1 + i by omega]
          exact ih (by simpa using hi)
      · cases i with
        | zero =>
          obtain rfl := Option.some.inj hi
          exact hrow
        | succ i => cases hi

/-- Reading within the limit finds nothing only where there is nothing. -/
theorem missing_of_tail {limit : Nat} (hnone : (tail source limit row).rows.length = 0)
    (h : (tail source limit row).isOverlong = false) : source.rowAt row = none := by
  cases hrow : source.rowAt row with
  | none => rfl
  | some content =>
    cases limit with
    | zero => simp [tail, hrow] at h
    | succ limit =>
      unfold tail at hnone
      rw [hrow] at hnone
      dsimp only at hnone
      split at hnone <;> simp at hnone

/-- Reading within the limit finds the rows of the chain, all of them. -/
theorem isTail_tail {limit : Nat} {content : Row} (hrow : source.rowAt row = some content)
    (hshort : (tail source limit row).isOverlong = false) :
    IsTail source row (tail source limit row).rows := by
  induction limit generalizing row content with
  | zero =>
    unfold tail at hshort
    rw [hrow] at hshort
    cases hshort
  | succ limit ih =>
    unfold tail at hshort ⊢
    rw [hrow] at hshort ⊢
    dsimp only at hshort ⊢
    by_cases hwrapped : content.softWrapped = true
    · rw [if_pos hwrapped] at hshort ⊢
      cases hnext : source.rowAt (row + 1) with
      | none =>
        rw [tail_of_missing hnext]
        exact .last hrow (.inr hnext)
      | some next => exact .more hrow hwrapped (ih hnext hshort)
    · rw [if_neg hwrapped]
      exact .last hrow (.inl (Bool.eq_false_iff.2 hwrapped))

/-- Reading that stays within the limit goes on to the end of the chain. -/
theorem tail_ends {limit : Nat} (hpos : 0 < (tail source limit row).rows.length)
    (h : (tail source limit row).isOverlong = false) :
    source.isWrapped (row + (tail source limit row).rows.length - 1) = false ∨
      source.rowAt (row + (tail source limit row).rows.length) = none := by
  induction limit generalizing row with
  | zero => simp [tail] at hpos
  | succ limit ih =>
    cases hrow : source.rowAt row with
    | none =>
      rw [tail_of_missing hrow] at hpos
      exact absurd hpos (Nat.lt_irrefl 0)
    | some content =>
      unfold tail at h ⊢
      rw [hrow] at h ⊢
      dsimp only at h ⊢
      by_cases hwrapped : content.softWrapped = true
      · rw [if_pos hwrapped] at h ⊢
        dsimp only at h ⊢
        rw [List.length_cons]
        rcases Nat.eq_zero_or_pos (tail source limit (row + 1)).rows.length with hnone | hsome
        · rw [hnone]
          exact .inr (missing_of_tail hnone h)
        · have hlater := ih hsome h
          generalize (tail source limit (row + 1)).rows.length = length at hsome hlater ⊢
          rwa [show row + (length + 1) - 1 = row + 1 + length - 1 by omega,
            show row + (length + 1) = row + 1 + length by omega]
      · rw [if_neg hwrapped]
        refine .inl ?_
        simpa [RowSource.isWrapped_of_rowAt hrow] using hwrapped

end Walk

/-! ### More rows than the limit -/

/-- The chain has more than `limit` rows from `row` on. -/
def Exceeds (source : RowSource) (limit row : Nat) : Prop :=
  (∀ i < limit, source.isWrapped (row + i) = true) ∧ (source.rowAt (row + limit)).isSome = true

instance (source : RowSource) (limit row : Nat) : Decidable (Exceeds source limit row) :=
  inferInstanceAs (Decidable (_ ∧ _))

theorem isOverlong_tail_succ (source : RowSource) (limit row : Nat) :
    (tail source (limit + 1) row).isOverlong =
      (source.isWrapped row && (tail source limit (row + 1)).isOverlong) := by
  cases hrow : source.rowAt row with
  | none =>
    rw [tail_of_missing hrow, RowSource.isWrapped_of_missing hrow]
    rfl
  | some content =>
    rw [RowSource.isWrapped_of_rowAt hrow]
    simp only [tail, hrow]
    cases content.softWrapped <;> rfl

theorem exceeds_succ {source : RowSource} {limit row : Nat} :
    Exceeds source (limit + 1) row ↔
      source.isWrapped row = true ∧ Exceeds source limit (row + 1) := by
  unfold Exceeds
  rw [show row + (limit + 1) = row + 1 + limit by omega, ← and_assoc, and_congr_left_iff]
  intro _
  constructor
  · intro h
    refine ⟨h 0 (Nat.succ_pos limit), fun i hi => ?_⟩
    rw [show row + 1 + i = row + (i + 1) by omega]
    exact h (i + 1) (Nat.succ_lt_succ hi)
  · rintro ⟨hfirst, hlater⟩ i hi
    cases i with
    | zero => exact hfirst
    | succ i =>
      rw [show row + (i + 1) = row + 1 + i by omega]
      exact hlater i (Nat.lt_of_succ_lt_succ hi)

/-- Reading with a limit sees whether there are more rows. -/
theorem isOverlong_iff {source : RowSource} {limit row : Nat} :
    (tail source limit row).isOverlong = true ↔ Exceeds source limit row := by
  induction limit generalizing row with
  | zero => simp [tail, Exceeds]
  | succ limit ih => rw [isOverlong_tail_succ, exceeds_succ, Bool.and_eq_true, ih]

/-- A chain that ends within the limit does not exceed it. -/
theorem IsTail.not_exceeds {source : RowSource} {row limit : Nat} {rows : List Row}
    (h : IsTail source row rows) (hlimit : rows.length ≤ limit) : ¬Exceeds source limit row := by
  obtain ⟨reads, htail⟩ := h.tail_eq limit
  rw [← isOverlong_iff, htail]
  simpa using hlimit

/-! ## The first row of a chain -/

/-- How many rows of its chain are above a row. -/
def depth (source : RowSource) : (row : Nat) → Nat
  | 0 => 0
  | row + 1 => if source.isWrapped row then depth source row + 1 else 0

/-- Soft-wrapped rows down to a row, below one that is not, are what is above it. -/
theorem depth_eq {source : RowSource} {first i : Nat}
    (hwrapped : ∀ j < i, source.isWrapped (first + j) = true)
    (hfirst : ∀ above, above + 1 = first → source.isWrapped above = false) :
    depth source (first + i) = i := by
  induction i with
  | zero =>
    cases first with
    | zero => rfl
    | succ above =>
      rw [Nat.add_zero, depth, hfirst above rfl]
      rfl
  | succ i ih =>
    rw [← Nat.add_assoc, depth, if_pos (hwrapped i (by omega)),
      ih fun j hj => hwrapped j (by omega)]

/-- The bounded search finds the first row of the chain exactly when it is within
`limit` steps. -/
theorem head?_eq {source : RowSource} (hsource : source.StartsAtFirst) (limit row : Nat) :
    head? source limit row =
      if depth source row < limit then some (row - depth source row) else none := by
  induction limit generalizing row with
  | zero => rfl
  | succ limit ih =>
    unfold head?
    by_cases hfirst : row ≤ source.firstRow
    · have hdepth : depth source row = 0 := by
        cases row with
        | zero => rfl
        | succ above =>
          rw [depth, RowSource.isWrapped_of_missing (hsource above (by omega))]
          rfl
      rw [if_pos hfirst, hdepth, if_pos (by omega), Nat.sub_zero]
    · rw [if_neg hfirst]
      cases row with
      | zero => omega
      | succ above =>
        rw [Nat.add_sub_cancel, depth]
        by_cases hwrapped : source.isWrapped above = true
        · rw [if_pos hwrapped, if_pos hwrapped, ih]
          by_cases hlimit : depth source above < limit
          · rw [if_pos hlimit, if_pos (by omega)]
            congr 1
            omega
          · rw [if_neg hlimit, if_neg (by omega)]
        · rw [if_neg hwrapped, if_neg hwrapped, if_pos (by omega), Nat.sub_zero]

/-- The search finds a row less than `limit` rows above, when soft-wrapped rows lead from it
and none leads to it. -/
theorem head?_of_leads {source : RowSource} {head row limit : Nat}
    (hretained : source.firstRow ≤ head)
    (habove : ∀ above, above + 1 = head → source.isWrapped above = false)
    (hleads : Leads source head row) (hlimit : row < head + limit) :
    head? source limit row = some head := by
  have hle := hleads.le
  induction limit generalizing row with
  | zero => omega
  | succ limit ih =>
    unfold head?
    rcases Nat.eq_or_lt_of_le hle with rfl | hlt
    · by_cases hfirst : head ≤ source.firstRow
      · rw [if_pos hfirst]
      · have hlast := habove (head - 1) (by omega)
        rw [if_neg hfirst, if_neg (by rw [hlast]; exact Bool.false_ne_true)]
    · have hwrapped := hleads.isWrapped (row - 1) (by omega) (by omega)
      rw [if_neg (by omega), if_pos hwrapped]
      refine ih ⟨by omega, fun above hhead hrow => ?_⟩ (by omega) (by omega)
      exact hleads.isWrapped above hhead (by omega)

/-! ## Whole chains -/

/-- A whole chain of a source, from its first row on: the row above it is missing or not
soft-wrapped. -/
structure IsWhole (source : RowSource) (first : Nat) (rows : List Row) : Prop where
  isTail : IsTail source first rows
  isWrapped_above : ∀ above, above + 1 = first → source.isWrapped above = false

theorem IsWhole.depth_add {source : RowSource} {first : Nat} {rows : List Row}
    (h : IsWhole source first rows) {i : Nat} (hi : i < rows.length) :
    depth source (first + i) = i :=
  depth_eq (fun _ hj => h.isTail.isWrapped_add (by omega)) h.isWrapped_above

end Chain

namespace Scrollback

theorem rowAt_source (s : Scrollback) (row : Nat) : s.source.rowAt row = s.row? row := rfl

theorem startsAtFirst (s : Scrollback) : s.source.StartsAtFirst := by
  intro row h
  have hretains : s.retains row = false := by
    have hlt : ¬s.firstRow ≤ row := Nat.not_le.2 h
    simp [retains, hlt]
  rw [rowAt_source, row?, hretains]
  rfl

theorem lt_nextRow_of_rowAt {s : Scrollback} {row : Nat} {content : Row}
    (h : s.source.rowAt row = some content) : row < s.nextRow := by
  rw [rowAt_source, row?] at h
  split at h
  · next hretains =>
    simp only [retains, Bool.and_eq_true, decide_eq_true_eq] at hretains
    exact hretains.2
  · cases h

/-- In a scrollback every chain ends. -/
theorem exists_isTail (s : Scrollback) {row : Nat} {content : Row}
    (h : s.source.rowAt row = some content) : ∃ rows, Chain.IsTail s.source row rows := by
  have hlt := lt_nextRow_of_rowAt h
  -- The newest row has none below it, so the induction is on the distance to it.
  induction hdistance : s.nextRow - row using Nat.strongRecOn generalizing row content with
  | _ distance ih =>
    by_cases hwrapped : content.softWrapped = true
    · cases hnext : s.source.rowAt (row + 1) with
      | none => exact ⟨_, .last h (.inr hnext)⟩
      | some below =>
        have hbelow := lt_nextRow_of_rowAt hnext
        obtain ⟨rows, hrows⟩ := ih _ (by omega) hnext hbelow rfl
        exact ⟨_, .more h hwrapped hrows⟩
    · exact ⟨_, .last h (.inl (by simpa using hwrapped))⟩

end Scrollback

end BidiViewport
