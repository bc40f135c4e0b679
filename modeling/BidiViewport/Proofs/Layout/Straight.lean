import BidiViewport.Proofs.Layout.Placement

/-!
# Passes without analyses

A pass in which nothing is analysed lays every paragraph out straight, in the direction that its
first row declares (`Frame.LaysStraight`).  The reasons may differ: the classifier cannot
reorder, it has no analysis for any text, or no row asks for one.

* Two such passes over the same rows have the same paragraphs and the same layouts
  (`Frame.LaysStraight.layouts_pass`).
* Where every chain keeps to one direction, the direction of a row is even that of the rows
  around it (`RowSource.resting`), wherever its paragraph begins
  (`Frame.LaysStraight.layout_eq`).
-/

namespace BidiViewport

/-! ## Directions that rows declare -/

/-- The same row, but it does not ask for the bidirectional algorithm. -/
def Row.withoutImplicit (row : Row) : Row :=
  { row with flags := { row.flags with implicit := false } }

namespace RowSource

variable {source : RowSource} {row : Nat}

/-- The direction that a row declares.  A missing row runs from left to right. -/
def declared (source : RowSource) (row : Nat) : Direction :=
  (source.rowAt row).elim .ltr (·.flags.declared)

/-- The rows of each chain declare the same direction. -/
def KeepsDirection (source : RowSource) : Prop :=
  ∀ row upper lower, source.rowAt row = some upper → upper.softWrapped = true →
    source.rowAt (row + 1) = some lower → lower.flags.rtl = upper.flags.rtl

/-- The direction of a row when the rows from `start` on are laid out straight.  A missing row
goes with a chain that leads to it. -/
def resting (source : RowSource) (start row : Nat) : Direction :=
  match source.rowAt row with
  | some content => content.flags.declared
  | none =>
    if start < row ∧ source.isWrapped (row - 1) = true then source.declared (row - 1) else .ltr

/-- The same rows, but none asks for the bidirectional algorithm. -/
def withoutImplicit (source : RowSource) : RowSource :=
  { source with rowAt := fun row => (source.rowAt row).map Row.withoutImplicit }

theorem rowAt_withoutImplicit (source : RowSource) (row : Nat) :
    source.withoutImplicit.rowAt row = (source.rowAt row).map Row.withoutImplicit := rfl

theorem declared_of_rowAt {content : Row} (h : source.rowAt row = some content) :
    source.declared row = content.flags.declared := by
  unfold declared
  rw [h]
  rfl

theorem declared_of_missing (h : source.rowAt row = none) : source.declared row = .ltr := by
  unfold declared
  rw [h]
  rfl

theorem declared_withoutImplicit (source : RowSource) (row : Nat) :
    source.withoutImplicit.declared row = source.declared row := by
  unfold declared
  rw [rowAt_withoutImplicit]
  cases source.rowAt row <;> rfl

theorem isWrapped_withoutImplicit (source : RowSource) (row : Nat) :
    source.withoutImplicit.isWrapped row = source.isWrapped row := by
  unfold isWrapped
  rw [rowAt_withoutImplicit]
  cases source.rowAt row <;> rfl

theorem resting_withoutImplicit (source : RowSource) (start row : Nat) :
    source.withoutImplicit.resting start row = source.resting start row := by
  unfold resting
  rw [rowAt_withoutImplicit, isWrapped_withoutImplicit, declared_withoutImplicit]
  cases source.rowAt row <;> rfl

theorem KeepsDirection.withoutImplicit (h : source.KeepsDirection) :
    source.withoutImplicit.KeepsDirection := by
  intro row upper lower hupper hwrapped hlower
  obtain ⟨upper', hupper', rfl⟩ := Option.map_eq_some_iff.1 hupper
  obtain ⟨lower', hlower', rfl⟩ := Option.map_eq_some_iff.1 hlower
  exact h row upper' lower' hupper' hwrapped hlower'

theorem declared_of_leads {head : Nat} (hkeeps : source.KeepsDirection)
    (h : Chain.Leads source head row) (hrow : (source.rowAt row).isSome = true) :
    source.declared row = source.declared head := by
  obtain ⟨i, rfl⟩ := Nat.exists_eq_add_of_le h.le
  induction i with
  | zero => rfl
  | succ i ih =>
    have hwrapped := h.isWrapped (head + i) (by omega) (by omega)
    obtain ⟨upper, hupper⟩ :=
      Option.isSome_iff_exists.1 (source.isSome_of_isWrapped hwrapped)
    obtain ⟨lower, hlower⟩ := Option.isSome_iff_exists.1 hrow
    rw [isWrapped_of_rowAt hupper] at hwrapped
    have hsame : source.declared (head + (i + 1)) = source.declared (head + i) := by
      rw [declared_of_rowAt hlower, declared_of_rowAt hupper]
      exact congrArg Direction.ofBool (hkeeps (head + i) upper lower hupper hwrapped hlower)
    rw [hsame]
    refine ih ⟨by omega, fun above hhead habove => h.isWrapped above hhead (by omega)⟩ ?_
    rw [hupper]
    rfl

end RowSource

/-- The classifier has no analysis for any text, whether it could reorder or not. -/
def Classifier.AnalysesNothing (c : Classifier) : Prop :=
  c.isAvailable = true → ∀ text base, ∃ error, c.analyze text base = .error error

namespace Frame

variable {a b frame : Frame} {source : RowSource} {head row : Nat}

theorem first_of_missing (h : source.rowAt frame.start = none) :
    frame.first source = frame.start := by
  unfold first head? seeksHead
  rw [h]
  rfl

/-- A visible missing row is a paragraph of its own, unless the visible row above it leads to it. -/
theorem Takes.eq_of_missing (h : frame.Takes source head row) (hshows : frame.shows row = true)
    (hmissing : source.rowAt row = none)
    (habove : frame.start < row → source.isWrapped (row - 1) = false) : head = row := by
  by_contra hne
  have hlt : head < row := Nat.lt_of_le_of_ne h.head_le hne
  rcases Nat.eq_or_lt_of_le (shows_iff.1 hshows).1 with hstart | hstart
  · -- A pass that begins with a missing row looks for no row above it.
    have hfirst := h.first_le
    rw [first_of_missing (hstart ▸ hmissing)] at hfirst
    omega
  · have hwrapped := h.leads.isWrapped (row - 1) (by omega) (by omega)
    rw [habove hstart] at hwrapped
    cases hwrapped

/-- The frames show the same rows at the same width. -/
structure SameWindow (a b : Frame) : Prop where
  start : a.start = b.start
  size : a.size = b.size
  width : a.width = b.width

theorem SameWindow.stop (h : a.SameWindow b) : a.stop = b.stop := by
  unfold Frame.stop
  rw [h.start, h.size]

theorem SameWindow.shows (h : a.SameWindow b) (row : Nat) : a.shows row = b.shows row := by
  unfold Frame.shows
  rw [h.start, h.stop]

/-- Every paragraph is laid out straight in the direction that its first row declares. -/
def LaysStraight (frame : Frame) (source : RowSource) : Prop :=
  ∀ row, ∃ cause, (frame.prepare source row).verdict = .straight (source.declared row) cause

theorem laysStraight_of_analysesNothing (hclassifier : frame.classifier.AnalysesNothing)
    (source : RowSource) : frame.LaysStraight source := by
  intro row
  have hprepares := frame.prepares source row
  generalize frame.prepare source row = prepared at hprepares ⊢
  cases hprepares with
  | missing hrow => exact ⟨_, by rw [RowSource.declared_of_missing hrow]⟩
  | explicit hrow => exact ⟨_, by rw [RowSource.declared_of_rowAt hrow]⟩
  | unavailable hrow => exact ⟨_, by rw [RowSource.declared_of_rowAt hrow]⟩
  | overlong hasks => exact ⟨_, by rw [RowSource.declared_of_rowAt hasks.rowAt]⟩
  | blank hasks => exact ⟨_, by rw [RowSource.declared_of_rowAt hasks.rowAt]⟩
  | failed hasks => exact ⟨_, by rw [RowSource.declared_of_rowAt hasks.rowAt]⟩
  | analysed hasks _ _ hanalysis =>
    obtain ⟨error, herror⟩ := hclassifier hasks.isAvailable _ _
    rw [herror] at hanalysis
    cases hanalysis

theorem laysStraight_withoutImplicit (frame : Frame) (source : RowSource) :
    frame.LaysStraight source.withoutImplicit := by
  intro row
  cases hrow : source.rowAt row with
  | none =>
    have hmissing : source.withoutImplicit.rowAt row = none := by
      rw [RowSource.rowAt_withoutImplicit, hrow, Option.map_none]
    rw [RowSource.declared_of_missing hmissing]
    exact ⟨_, frame.verdict_of_missing hmissing⟩
  | some content =>
    have hcontent : source.withoutImplicit.rowAt row = some content.withoutImplicit := by
      rw [RowSource.rowAt_withoutImplicit, hrow, Option.map_some]
    rw [RowSource.declared_of_rowAt hcontent]
    exact ⟨_, frame.verdict_of_explicit hcontent rfl⟩

namespace LaysStraight

theorem layouts_eq (h : frame.LaysStraight source) (row : Nat) :
    (frame.layoutParagraph source row).layouts =
      (Chain.walk source (frame.stop - row) row).map fun _ =>
        { direction := source.declared row } := by
  obtain ⟨cause, hverdict⟩ := h row
  exact layouts_straight hverdict

theorem completes (h : frame.LaysStraight source) : frame.Completes source := by
  intro layout hlayout
  obtain ⟨row, hmem⟩ := exists_row_of_mem_layouts_pass hlayout
  rw [h.layouts_eq] at hmem
  obtain ⟨_, _, rfl⟩ := List.mem_map.1 hmem
  exact RowLayout.isBijection_straight _ _ _

/-! ### Two passes over the same rows -/

theorem map_layouts_paragraphsFrom (ha : a.LaysStraight source) (hb : b.LaysStraight source)
    (hstop : a.stop = b.stop) (row : Nat) :
    (a.paragraphsFrom source row).map (·.layouts) =
      (b.paragraphsFrom source row).map (·.layouts) := by
  induction row using paragraphs_induction a source with
  | next row hrow ih =>
    have hlayouts : (a.layoutParagraph source row).layouts =
        (b.layoutParagraph source row).layouts := by
      rw [ha.layouts_eq, hb.layouts_eq, hstop]
    have hrow' : row < b.stop := hstop ▸ hrow
    rw [paragraphsFrom_of_lt hrow, paragraphsFrom_of_lt hrow', List.map_cons, List.map_cons, ih,
      hlayouts]
  | done row hrow => rw [paragraphsFrom_of_le hrow, paragraphsFrom_of_le (hstop ▸ hrow)]

/-- Why nothing is analysed makes no difference to the layouts, nor to how many paragraphs
there are. -/
theorem layouts_pass (ha : a.LaysStraight source) (hb : b.LaysStraight source)
    (hsame : a.SameWindow b) (hlimit : a.limit = b.limit) :
    (a.pass source).layouts = (b.pass source).layouts ∧
      (a.pass source).stats.paragraphs = (b.pass source).stats.paragraphs := by
  have hfirst : a.first source = b.first source := by
    unfold first head? seeksHead
    rw [hsame.start, hlimit]
  have hparagraphs := map_layouts_paragraphsFrom ha hb hsame.stop (a.first source)
  constructor
  · rw [Frame.layouts_pass, Frame.layouts_pass]
    unfold rowLayouts
    rw [List.flatMap_def, List.flatMap_def, hparagraphs, hfirst, hsame.start, hsame.size]
  · have hlength := congrArg List.length hparagraphs
    rw [List.length_map, List.length_map] at hlength
    refine hlength.trans ?_
    rw [hfirst]
    rfl

/-! ### The direction of a row -/

theorem exists_isHeadOf (hkeeps : source.KeepsDirection) (hshows : frame.shows row = true)
    (hrow : (source.rowAt row).isSome = true) :
    ∃ head, frame.IsHeadOf source head row ∧ source.declared head = source.declared row := by
  obtain ⟨head, htakes, -⟩ := exists_takes source hshows
  have hhead := htakes.isHeadOf (htakes.leads.isSome_head hrow)
  exact ⟨head, hhead, (RowSource.declared_of_leads hkeeps hhead.leads hrow).symm⟩

/-- When every chain keeps to one direction, a row has the direction that it declares, and a
missing one that of the chain above it. -/
theorem layout_eq (h : frame.LaysStraight source) (hkeeps : source.KeepsDirection)
    (hshows : frame.shows row = true) :
    (frame.pass source).layouts[row - frame.start]? =
      some { direction := source.resting frame.start row } := by
  unfold RowSource.resting
  cases hrow : source.rowAt row with
  | some content =>
    obtain ⟨head, hhead, hsame⟩ := exists_isHeadOf hkeeps hshows (by rw [hrow]; rfl)
    obtain ⟨cause, hverdict⟩ := h head
    dsimp only
    rw [hhead.layout_of_straight hshows hverdict, hsame, RowSource.declared_of_rowAt hrow]
  | none =>
    dsimp only
    by_cases habove : frame.start < row ∧ source.isWrapped (row - 1) = true
    · have hvisible := shows_iff.1 hshows
      have hlast : frame.shows (row - 1) = true := shows_iff.2 (by omega)
      obtain ⟨head, hhead, hsame⟩ :=
        exists_isHeadOf hkeeps hlast (source.isSome_of_isWrapped habove.2)
      have hbelow := hhead.succ habove.2
      rw [Nat.sub_add_cancel (by omega)] at hbelow
      obtain ⟨cause, hverdict⟩ := h head
      rw [hbelow.layout_of_straight hshows hverdict, if_pos habove, hsame]
    · obtain ⟨head, htakes, hsame⟩ := exists_takes source hshows
      obtain ⟨layout, hlayout⟩ := exists_layout source hshows
      obtain rfl : head = row :=
        htakes.eq_of_missing hshows hrow fun hlt =>
          Bool.eq_false_iff.2 fun hwrapped => habove ⟨hlt, hwrapped⟩
      obtain ⟨cause, hverdict⟩ := h head
      rw [RowSource.declared_of_missing hrow] at hverdict
      rw [if_neg habove, hlayout, getElem?_layouts_straight hverdict (hsame.symm.trans hlayout)]

end LaysStraight

end Frame

end BidiViewport
