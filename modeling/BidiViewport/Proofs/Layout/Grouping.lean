import BidiViewport.Proofs.Layout.Paragraphs
import BidiViewport.Proofs.Layout.Verdicts

/-!
# The calls of a pass

A pass asks the classifier once about each paragraph that wants it and can have it
(`Frame.calls_pass`).  The paragraphs are not those that a pass happens to walk along: they
are chains of the scrollback, said of its rows alone.

* `Frame.origin`: the row from which on the rows are cut into chains.
* `Chain.heads`: the rows at which chains begin then.
* `Frame.call?` is what is asked about a chain, all of it, also below the viewport.
-/

namespace BidiViewport

namespace Chain

/-- A chain begins at `row` when the rows are cut into chains from `start` on. -/
def begins (source : RowSource) (start row : Nat) : Bool :=
  (source.rowAt row).isSome && (row = start || !source.isWrapped (row - 1))

/-- The rows from `start` on and above `stop` at which chains begin. -/
def heads (source : RowSource) (start stop : Nat) : List Nat :=
  (List.range' start (stop - start)).filter (begins source start)

theorem heads_of_le {source : RowSource} {start stop : Nat} (h : stop ≤ start) :
    heads source start stop = [] := by
  unfold heads
  rw [Nat.sub_eq_zero_of_le h]
  rfl

theorem begins_self (source : RowSource) (row : Nat) :
    begins source row row = (source.rowAt row).isSome := by
  simp [begins]

/-- No chain begins below a soft-wrapped row. -/
theorem not_begins_of_isWrapped {source : RowSource} {start row : Nat} (hne : row ≠ start)
    (h : source.isWrapped (row - 1) = true) : ¬begins source start row = true := by
  simp [begins, hne, h]

/-- From the end of a paragraph on the rows are cut as if nothing were above them. -/
theorem begins_below {source : RowSource} {start next row : Nat} (hlt : start < next)
    (hle : next ≤ row)
    (hend : source.isWrapped (next - 1) = false ∨ source.rowAt next = none) :
    begins source start row = begins source next row := by
  have hne : row ≠ start := by omega
  rcases Nat.eq_or_lt_of_le hle with rfl | hbelow
  · rcases hend with hlast | hmissing
    · simp [begins, hlast]
    · simp [begins, hmissing]
  · have hnext : row ≠ next := by omega
    simp [begins, hne, hnext]

/-- Rows that one paragraph takes have one head at most, the first one. -/
theorem heads_eq_append {source : RowSource} {row stop length : Nat} (hrow : row < stop)
    (hlength : 0 < length) (hwrapped : ∀ i, i + 1 < length → source.isWrapped (row + i) = true)
    (hend : row + length < stop →
      source.isWrapped (row + length - 1) = false ∨ source.rowAt (row + length) = none) :
    heads source row stop =
      (if (source.rowAt row).isSome then [row] else []) ++ heads source (row + length) stop := by
  -- The paragraph may go on below `stop`.
  have hsplit : List.range' row (stop - row) =
      row :: List.range' (row + 1) (min length (stop - row) - 1) ++
        List.range' (row + min length (stop - row)) (stop - (row + length)) := by
    rw [← List.range'_succ, Nat.sub_add_cancel (by omega), List.range'_append_1]
    congr 1
    omega
  have hinside : ∀ later ∈ List.range' (row + 1) (min length (stop - row) - 1),
      ¬begins source row later = true := by
    intro later hlater
    rw [List.mem_range'_1] at hlater
    have habove := hwrapped (later - 1 - row) (by omega)
    rw [show row + (later - 1 - row) = later - 1 by omega] at habove
    exact not_begins_of_isWrapped (by omega) habove
  have hbelow : (List.range' (row + min length (stop - row)) (stop - (row + length))).filter
      (begins source row) = heads source (row + length) stop := by
    rcases Nat.lt_or_ge (row + length) stop with hlt | hge
    · rw [Nat.min_eq_left (by omega)]
      refine List.filter_congr fun later hlater => ?_
      exact begins_below (by omega) (List.mem_range'_1.1 hlater).1 (hend hlt)
    · rw [heads_of_le hge, Nat.sub_eq_zero_of_le hge]
      rfl
  rw [← hbelow, heads, hsplit, List.filter_append, List.filter_cons,
    List.filter_eq_nil_iff.2 hinside, begins_self]

/-- A chain with no row below it has the last head. -/
theorem heads_of_isTail {source : RowSource} {first stop : Nat} {rows : List Row}
    (h : IsTail source first rows)
    (hbelow : ∀ row, first + rows.length ≤ row → source.rowAt row = none) (hstop : first < stop) :
    heads source first stop = [first] := by
  obtain ⟨content, rest, -, hcontent⟩ := h.exists_head
  have hnone : heads source (first + rows.length) stop = [] := by
    refine List.filter_eq_nil_iff.2 fun row hrow => ?_
    have hmissing := hbelow row (List.mem_range'_1.1 hrow).1
    simp [begins, hmissing]
  have hcut := heads_eq_append hstop h.length_pos (fun i hi => h.isWrapped_add hi)
    fun _ => .inr (hbelow _ (Nat.le_refl _))
  rw [hcut, hnone, hcontent]
  rfl

end Chain

namespace Frame

variable {frame : Frame}

/-- The row at which a pass begins: the first row of the chain of the first visible row, if
that one asks for the bidirectional algorithm and the chain begins less than `limit` rows
above it, and else the first visible row. -/
def origin (frame : Frame) (source : RowSource) : Nat :=
  let depth := Chain.depth source frame.start
  if (source.rowAt frame.start).any (·.flags.implicit) ∧ depth < frame.limit then
    frame.start - depth
  else frame.start

theorem first_eq_origin {source : RowSource} (hsource : source.StartsAtFirst) :
    frame.first source = frame.origin source := by
  unfold first head? origin seeksHead
  rw [Chain.head?_eq hsource]
  dsimp only
  by_cases hseeks : (source.rowAt frame.start).any (·.flags.implicit) = true
  · rw [if_pos hseeks]
    by_cases hnear : Chain.depth source frame.start < frame.limit
    · rw [if_pos hnear, if_pos ⟨hseeks, hnear⟩]
      rfl
    · rw [if_neg hnear, if_neg fun h => hnear h.2]
      rfl
  · rw [if_neg hseeks, if_neg fun h => hseeks h.1]
    rfl

theorem call?_layoutParagraph (frame : Frame) (source : RowSource) (row : Nat) :
    (frame.layoutParagraph source row).call? = (frame.prepare source row).call? := by
  unfold layoutParagraph
  dsimp only
  split <;> rfl

theorem call?_of_missing {source : RowSource} {row : Nat} (h : source.rowAt row = none) :
    (frame.layoutParagraph source row).call? = none := by
  rw [call?_layoutParagraph]
  unfold prepare
  rw [h]

theorem call?_of_isTail {source : RowSource} {row : Nat} {rows : List Row}
    (h : Chain.IsTail source row rows) : (frame.layoutParagraph source row).call? =
      if frame.classifier.isAvailable then frame.call? rows else none := by
  obtain ⟨reads, hprepare⟩ := @prepare_of_isTail frame _ _ _ h
  rw [call?_layoutParagraph, hprepare]

/-- The paragraphs from a row on ask about the chains that begin there and below. -/
theorem exists_chains (frame : Frame) (scrollback : Scrollback) (row : Nat) :
    ∃ chains : List (Nat × List Row),
      chains.map Prod.fst = Chain.heads scrollback.source row frame.stop ∧
      (∀ chain ∈ chains, Chain.IsTail scrollback.source chain.1 chain.2) ∧
      (frame.paragraphsFrom scrollback.source row).filterMap (·.call?) =
        chains.filterMap fun chain =>
          if frame.classifier.isAvailable then frame.call? chain.2 else none := by
  induction row using paragraphs_induction frame scrollback.source with
  | next row hrow ih =>
    obtain ⟨chains, hheads, htails, hcalls⟩ := ih
    have hcut := Chain.heads_eq_append hrow
      (frame.length_layouts_pos scrollback.source hrow) (fun _ => isWrapped_of_layouts)
      (layouts_end hrow)
    rw [paragraphsFrom, dif_pos hrow, List.filterMap_cons, hcut]
    cases hcontent : scrollback.source.rowAt row with
    | none =>
      refine ⟨chains, hheads, htails, ?_⟩
      rw [call?_of_missing hcontent]
      exact hcalls
    | some content =>
      obtain ⟨rows, hrows⟩ := scrollback.exists_isTail hcontent
      refine ⟨(row, rows) :: chains, ?_, ?_, ?_⟩
      · rw [List.map_cons, hheads]
        rfl
      · exact List.forall_mem_cons.2 ⟨hrows, htails⟩
      · rw [call?_of_isTail hrows, List.filterMap_cons, hcalls]
  | done row hrow =>
    refine ⟨[], ?_, ?_, ?_⟩
    · rw [Chain.heads_of_le hrow]
      rfl
    · exact List.forall_mem_nil _
    · rw [paragraphsFrom, dif_neg (Nat.not_lt.2 hrow)]
      rfl

/-- A pass that begins with the last chain of a scrollback has one call to make at most. -/
theorem calls_of_isTail {scrollback : Scrollback} {rows : List Row}
    (havailable : frame.classifier.isAvailable = true)
    (h : Chain.IsTail scrollback.source (frame.first scrollback.source) rows)
    (hbelow : ∀ row, frame.first scrollback.source + rows.length ≤ row →
      scrollback.source.rowAt row = none)
    (hstop : frame.first scrollback.source < frame.stop) :
    (frame.pass scrollback.source).calls = (frame.call? rows).toList := by
  obtain ⟨chains, hheads, htails, hcalls⟩ :=
    frame.exists_chains scrollback (frame.first scrollback.source)
  rw [Chain.heads_of_isTail h hbelow hstop] at hheads
  obtain ⟨⟨first, rows'⟩, rfl, rfl⟩ := List.map_eq_singleton_iff.1 hheads
  obtain rfl := h.unique (htails _ List.mem_cons_self)
  refine hcalls.trans ?_
  rw [havailable]
  cases hcall : frame.call? rows with
  | none => simp [hcall]
  | some call => simp [hcall]

/-- A pass with an available classifier makes one call for each chain that begins at or
below its origin and above the end of the viewport, in the order of the rows, if the chain
has a call to make; and no other.  With a classifier that is not available it makes none. -/
theorem calls_pass (frame : Frame) (scrollback : Scrollback) :
    let source := scrollback.source
    ∃ chains : List (Nat × List Row),
      chains.map Prod.fst = Chain.heads source (frame.origin source) frame.stop ∧
      (∀ chain ∈ chains, Chain.IsTail source chain.1 chain.2) ∧
      (frame.pass source).calls = chains.filterMap fun chain =>
        if frame.classifier.isAvailable then frame.call? chain.2 else none := by
  intro source
  rw [← first_eq_origin scrollback.startsAtFirst]
  exact frame.exists_chains scrollback (frame.first source)

end Frame

end BidiViewport
