import BidiViewport.Proofs.Layout.Paragraphs

/-!
# The footprint of a pass

Every part of a pass lists the rows that it reads.

* The lists are complete: a source can be replaced by another that has the same rows there
  (`RowSource.AgreeOn`), and nothing changes.  So it is for chains (`Chain.tail_congr`), for
  paragraphs (`Frame.layoutParagraph_congr`) and for a pass (`Frame.pass_congr`).  The search
  for the first row of a chain asks in addition which rows the source has given up; it asks
  only about rows less than the limit above the viewport.
* The lists are bounded: no row in them is more than the limit above the viewport or below it
  (`Frame.bounds_of_mem_pass`).
-/

namespace BidiViewport

/-- The two sources have the same rows at these numbers. -/
def RowSource.AgreeOn (a b : RowSource) (rows : List Nat) : Prop :=
  ∀ row ∈ rows, a.rowAt row = b.rowAt row

namespace RowSource.AgreeOn

variable {a b : RowSource} {rows others : List Nat} {row : Nat}

theorem mono (h : a.AgreeOn b rows) (hsubset : ∀ row ∈ others, row ∈ rows) :
    a.AgreeOn b others :=
  fun row hrow => h row (hsubset row hrow)

theorem left (h : a.AgreeOn b (rows ++ others)) : a.AgreeOn b rows :=
  h.mono fun _ hrow => List.mem_append_left _ hrow

theorem right (h : a.AgreeOn b (rows ++ others)) : a.AgreeOn b others :=
  h.mono fun _ hrow => List.mem_append_right _ hrow

theorem head (h : a.AgreeOn b (row :: rows)) : a.rowAt row = b.rowAt row :=
  h row List.mem_cons_self

theorem tail (h : a.AgreeOn b (row :: rows)) : a.AgreeOn b rows :=
  h.mono fun _ hrow => List.mem_cons_of_mem _ hrow

end RowSource.AgreeOn

/-- The two sources have given up the same rows among those that are less than `limit` above
`row`. -/
def RowSource.SameStart (a b : RowSource) (limit row : Nat) : Prop :=
  ∀ above < limit, row - above ≤ a.firstRow ↔ row - above ≤ b.firstRow

namespace Chain

variable {a b : RowSource}

theorem isWrapped_congr {row : Nat} (h : a.rowAt row = b.rowAt row) :
    a.isWrapped row = b.isWrapped row := by
  unfold RowSource.isWrapped
  rw [h]

/-! ## Chains -/

theorem tail_congr {limit row : Nat} (h : a.AgreeOn b (tail a limit row).reads) :
    tail a limit row = tail b limit row := by
  induction limit generalizing row with
  | zero =>
    unfold tail at h ⊢
    rw [h.head]
  | succ limit ih =>
    unfold tail at h ⊢
    cases hrow : a.rowAt row with
    | none =>
      rw [hrow] at h
      rw [← h.head, hrow]
    | some content =>
      rw [hrow] at h
      dsimp only at h ⊢
      by_cases hwrapped : content.softWrapped = true
      · rw [if_pos hwrapped] at h ⊢
        rw [← h.head, hrow, ih h.tail]
        simp only [hwrapped, if_true]
      · rw [if_neg hwrapped] at h ⊢
        rw [← h.head, hrow]
        simp only [hwrapped, Bool.false_eq_true, if_false]

theorem walk_congr {most row : Nat} (h : a.AgreeOn b (walk a most row)) :
    walk a most row = walk b most row := by
  induction most generalizing row with
  | zero => rfl
  | succ most ih =>
    unfold walk at h ⊢
    rw [← isWrapped_congr h.head]
    by_cases hwrapped : a.isWrapped row = true
    · rw [if_pos hwrapped] at h ⊢
      rw [ih h.tail, if_pos hwrapped]
    · rw [if_neg hwrapped, if_neg hwrapped]

theorem search_congr {limit row : Nat} (hstart : a.SameStart b limit row)
    (h : a.AgreeOn b (headReads a limit row)) :
    head? a limit row = head? b limit row ∧ headReads a limit row = headReads b limit row := by
  induction limit generalizing row with
  | zero => exact ⟨rfl, rfl⟩
  | succ limit ih =>
    have hfirst : row ≤ a.firstRow ↔ row ≤ b.firstRow := hstart 0 (by omega)
    unfold headReads at h ⊢
    unfold head?
    by_cases hgone : row ≤ a.firstRow
    · have hgone' := hfirst.1 hgone
      simp only [hgone, hgone', if_true, and_self]
    · have hgone' := mt hfirst.2 hgone
      rw [if_neg hgone] at h
      simp only [hgone, hgone', if_false]
      rw [← isWrapped_congr h.head]
      by_cases hwrapped : a.isWrapped (row - 1) = true
      · rw [if_pos hwrapped] at h
        have hlater : a.SameStart b limit (row - 1) := by
          intro above habove
          rw [Nat.sub_sub, Nat.add_comm 1 above]
          exact hstart (above + 1) (by omega)
        obtain ⟨hhead, hreads⟩ := ih hlater h.tail
        simp only [hwrapped, if_true, hhead, hreads, and_self]
      · simp only [hwrapped, Bool.false_eq_true, if_false, and_self]

/-! ### How far chains are read -/

theorem bounds_of_mem_tail {source : RowSource} {limit row read : Nat}
    (h : read ∈ (tail source limit row).reads) : row ≤ read ∧ read ≤ row + limit := by
  induction limit generalizing row with
  | zero =>
    obtain rfl : read = row := by simpa [tail] using h
    omega
  | succ limit ih =>
    unfold tail at h
    cases hrow : source.rowAt row with
    | none =>
      rw [hrow] at h
      obtain rfl := List.mem_singleton.1 h
      omega
    | some content =>
      rw [hrow] at h
      dsimp only at h
      split at h
      · rcases List.mem_cons.1 h with rfl | hlater
        · omega
        · have := ih hlater
          omega
      · obtain rfl := List.mem_singleton.1 h
        omega

theorem bounds_of_mem_walk {source : RowSource} {most row read : Nat}
    (h : read ∈ walk source most row) : row ≤ read ∧ read < row + most := by
  induction most generalizing row with
  | zero => cases h
  | succ most ih =>
    unfold walk at h
    rcases List.mem_cons.1 h with rfl | hlater
    · omega
    · split at hlater
      · have := ih hlater
        omega
      · cases hlater

theorem bounds_of_mem_headReads {source : RowSource} {limit row read : Nat}
    (h : read ∈ headReads source limit row) : row ≤ read + limit ∧ read < row := by
  induction limit generalizing row with
  | zero => cases h
  | succ limit ih =>
    unfold headReads at h
    split at h
    · cases h
    · rcases List.mem_cons.1 h with rfl | hlater
      · omega
      · split at hlater
        · have := ih hlater
          omega
        · cases hlater

theorem lt_head?_add {source : RowSource} {limit row head : Nat}
    (h : head? source limit row = some head) : row < head + limit := by
  induction limit generalizing row with
  | zero => cases h
  | succ limit ih =>
    unfold head? at h
    split at h
    · obtain rfl := Option.some.inj h
      omega
    · split at h
      · have := ih h
        omega
      · obtain rfl := Option.some.inj h
        omega

end Chain

namespace Frame

variable {frame : Frame} {a b source : RowSource} {row read : Nat}

/-! ## Paragraphs -/

theorem mem_reads_prepare (frame : Frame) (source : RowSource) (row : Nat) :
    row ∈ (frame.prepare source row).reads := by
  have hprepares := frame.prepares source row
  generalize frame.prepare source row = prepared at hprepares ⊢
  cases hprepares <;> exact List.mem_cons_self

theorem prepare_congr (h : a.AgreeOn b (frame.prepare a row).reads) :
    frame.prepare a row = frame.prepare b row := by
  have hrow := h row (frame.mem_reads_prepare a row)
  unfold prepare at h ⊢
  rw [← hrow]
  cases hcontent : a.rowAt row with
  | none => rfl
  | some content =>
    rw [hcontent] at h
    dsimp only at h ⊢
    cases hbase : content.flags.mode.base? with
    | none => rfl
    | some base =>
      rw [hbase] at h
      dsimp only at h ⊢
      by_cases hunavailable : (!frame.classifier.isAvailable) = true
      · rw [if_pos hunavailable, if_pos hunavailable]
      · rw [if_neg hunavailable] at h
        have htail : Chain.tail a frame.limit row = Chain.tail b frame.limit row := by
          apply Chain.tail_congr
          split at h
          · exact h.tail
          · split at h <;> exact h.tail
        rw [htail]

theorem layoutParagraph_congr (h : a.AgreeOn b (frame.layoutParagraph a row).reads) :
    frame.layoutParagraph a row = frame.layoutParagraph b row := by
  unfold layoutParagraph at h ⊢
  dsimp only at h ⊢
  cases hverdict : (frame.prepare a row).verdict with
  | straight direction cause =>
    rw [hverdict] at h
    have hprepare := prepare_congr h.left
    have hwalk := Chain.walk_congr h.right
    rw [← hprepare, hverdict, ← hwalk]
  | analysed lines analysis =>
    rw [hverdict] at h
    have hprepare := prepare_congr h
    rw [← hprepare, hverdict]

theorem paragraphsFrom_congr
    (h : a.AgreeOn b ((frame.paragraphsFrom a row).flatMap (·.reads))) :
    frame.paragraphsFrom a row = frame.paragraphsFrom b row := by
  induction row using paragraphs_induction frame a with
  | next row hrow ih =>
    rw [paragraphsFrom_of_lt hrow, List.flatMap_cons] at h
    have hparagraph := layoutParagraph_congr h.left
    have hlater := ih h.right
    rw [paragraphsFrom_of_lt hrow, paragraphsFrom_of_lt hrow, hlater, hparagraph]
  | done row hrow => rw [paragraphsFrom_of_le hrow, paragraphsFrom_of_le hrow]

theorem bounds_of_mem_prepare (h : read ∈ (frame.prepare source row).reads) :
    row ≤ read ∧ read ≤ row + frame.limit := by
  have hprepares := frame.prepares source row
  generalize frame.prepare source row = prepared at h hprepares
  cases hprepares with
  | missing | explicit | unavailable =>
    obtain rfl := List.mem_singleton.1 h
    omega
  | overlong | blank | failed | analysed =>
    rcases List.mem_cons.1 h with rfl | hlater
    · omega
    · exact Chain.bounds_of_mem_tail hlater

/-- A paragraph that begins above the end of the viewport is not read further than the limit
below it. -/
theorem bounds_of_mem_layoutParagraph (hrow : row < frame.stop)
    (h : read ∈ (frame.layoutParagraph source row).reads) :
    row ≤ read ∧ read < frame.stop + frame.limit := by
  unfold layoutParagraph at h
  dsimp only at h
  split at h
  · rcases List.mem_append.1 h with hprepared | hwalked
    · have := bounds_of_mem_prepare hprepared
      omega
    · have := Chain.bounds_of_mem_walk hwalked
      omega
  · have := bounds_of_mem_prepare h
    omega

theorem bounds_of_mem_paragraphsFrom
    (h : read ∈ (frame.paragraphsFrom source row).flatMap (·.reads)) :
    row ≤ read ∧ read < frame.stop + frame.limit := by
  induction row using paragraphs_induction frame source with
  | next row hrow ih =>
    rw [paragraphsFrom_of_lt hrow, List.flatMap_cons] at h
    rcases List.mem_append.1 h with hown | hlater
    · exact bounds_of_mem_layoutParagraph hrow hown
    · have := ih hlater
      omega
  | done row hrow =>
    rw [paragraphsFrom_of_le hrow] at h
    cases h

/-! ## Passes -/

/-- The rows read to find the row at which the pass begins, beside the first visible one. -/
def searchReads (frame : Frame) (source : RowSource) : List Nat :=
  if frame.seeksHead source then Chain.headReads source frame.limit frame.start else []

theorem reads_pass (frame : Frame) (source : RowSource) : (frame.pass source).reads =
    frame.start :: frame.searchReads source ++
      (frame.paragraphsFrom source (frame.first source)).flatMap (·.reads) := rfl

/-- A pass depends on the rows that it reads, and on nothing else. -/
theorem pass_congr (hstart : a.SameStart b frame.limit frame.start)
    (h : a.AgreeOn b (frame.pass a).reads) : frame.pass a = frame.pass b := by
  rw [reads_pass] at h
  have hseeks : frame.seeksHead a = frame.seeksHead b := by
    unfold seeksHead
    rw [h.left.head]
  have hsearch : frame.head? a = frame.head? b ∧ frame.searchReads a = frame.searchReads b := by
    have hreads := h.left.tail
    unfold head? searchReads at *
    rw [← hseeks]
    by_cases hsought : frame.seeksHead a = true
    · simp only [hsought, if_true] at hreads ⊢
      exact Chain.search_congr hstart hreads
    · simp only [hsought, if_false, and_self, Bool.false_eq_true]
  obtain ⟨hhead, hreads⟩ := hsearch
  have hfirst : frame.first a = frame.first b := by
    unfold first
    rw [hhead]
  have hparagraphs : frame.paragraphsFrom a (frame.first a) =
      frame.paragraphsFrom b (frame.first b) := by
    rw [paragraphsFrom_congr h.right, hfirst]
  unfold first at hparagraphs
  unfold searchReads at hreads
  unfold pass
  dsimp only
  rw [hparagraphs, hreads, hhead]

/-- The search goes up less than the limit. -/
theorem lt_first_add (hlimit : 0 < frame.limit) (source : RowSource) :
    frame.start < frame.first source + frame.limit := by
  unfold first head?
  split
  · cases hhead : Chain.head? source frame.limit frame.start with
    | none => exact Nat.lt_add_of_pos_right hlimit
    | some head => exact Chain.lt_head?_add hhead
  · exact Nat.lt_add_of_pos_right hlimit

/-- No row that a pass reads is further from the viewport than the limit. -/
theorem bounds_of_mem_pass (hlimit : 0 < frame.limit) (h : read ∈ (frame.pass source).reads) :
    frame.start ≤ read + frame.limit ∧ read < frame.stop + frame.limit := by
  have hstop : frame.stop = frame.start + frame.size := rfl
  have hfirst := lt_first_add hlimit source
  rw [reads_pass] at h
  rcases List.mem_append.1 h with habove | hparagraph
  · rcases List.mem_cons.1 habove with rfl | hsearched
    · omega
    · unfold searchReads at hsearched
      split at hsearched
      · have := Chain.bounds_of_mem_headReads hsearched
        omega
      · cases hsearched
  · have := bounds_of_mem_paragraphsFrom hparagraph
    omega

end Frame

end BidiViewport
