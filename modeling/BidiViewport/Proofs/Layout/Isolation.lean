import BidiViewport.Proofs.Layout.Paragraphs
import BidiViewport.Proofs.Layout.Verdicts

/-!
# Chains in a viewport

A row can be laid out by a paragraph that begins anywhere in its chain, in a viewport
that begins or ends anywhere.  What it looks like depends on its chain only.

* `Frame.chainLayouts`: the layouts of the rows of a chain, said of the rows alone.
* `Frame.getElem?_layoutParagraph`: a paragraph gives its rows these layouts, up to the
  end of the viewport.
* `Frame.getElem?_layouts_of_isWhole`: so does a pass, wherever the chain begins, when its
  rows are uniform (`Chain.IsUniform`).
-/

namespace BidiViewport

namespace Chain

/-- All rows ask for the bidirectional algorithm, or none does and all declare the same
direction. -/
def IsUniform (rows : List Row) : Prop :=
  (∀ row ∈ rows, row.flags.implicit = true) ∨
    ∃ rtl, ∀ row ∈ rows, row.flags.implicit = false ∧ row.flags.rtl = rtl

/-- A tail can be entered at each of its rows. -/
theorem IsTail.drop {source : RowSource} {row i : Nat} {rows : List Row}
    (h : IsTail source row rows) (hi : i < rows.length) :
    IsTail source (row + i) (rows.drop i) := by
  induction h generalizing i with
  | @last row content hrow hend =>
    obtain rfl : i = 0 := Nat.lt_one_iff.1 hi
    exact .last hrow hend
  | @more row content rest hrow hwrapped hrest ih =>
    cases i with
    | zero => exact .more hrow hwrapped hrest
    | succ i =>
      rw [List.drop_succ_cons, show row + (i + 1) = row + 1 + i by omega]
      exact ih (Nat.lt_of_succ_lt_succ hi)

end Chain

namespace Frame

variable {frame : Frame} {source : RowSource} {row first i : Nat} {rows : List Row}

/-! ## Layouts of a chain -/

/-- The layouts of the rows of a paragraph. -/
def chainLayouts (frame : Frame) (rows : List Row) : List RowLayout :=
  match frame.judge rows with
  | .straight direction _ => rows.map fun _ => { direction }
  | .analysed lines analysis => (frame.orderedLines lines analysis).map (orElseStraight analysis)

/-- Which rows the viewport shows does not matter. -/
theorem chainLayouts_congr {a b : Frame} (hclassifier : a.classifier = b.classifier)
    (hwidth : a.width = b.width) (hlimit : a.limit = b.limit) (hshaping : a.shaping = b.shaping)
    (rows : List Row) : a.chainLayouts rows = b.chainLayouts rows := by
  obtain ⟨classifier, start, size, width, limit, shaping⟩ := a
  obtain ⟨classifier', start', size', width', limit', shaping'⟩ := b
  obtain rfl : classifier = classifier' := hclassifier
  obtain rfl : width = width' := hwidth
  obtain rfl : limit = limit' := hlimit
  obtain rfl : shaping = shaping' := hshaping
  cases rows <;> rfl

theorem verdict_prepare (frame : Frame) (h : Chain.IsTail source row rows) :
    (frame.prepare source row).verdict = frame.judge rows := by
  obtain ⟨reads, hprepare⟩ := @prepare_of_isTail frame _ _ _ h
  rw [hprepare]

/-- A paragraph gives its visible rows the layouts of its chain. -/
theorem getElem?_layoutParagraph (h : Chain.IsTail source row rows) (hi : i < rows.length)
    (hvisible : row + i < frame.stop) :
    (frame.layoutParagraph source row).layouts[i]? = (frame.chainLayouts rows)[i]? := by
  have hverdict := frame.verdict_prepare h
  unfold chainLayouts
  cases hjudge : frame.judge rows with
  | straight direction cause =>
    -- A straight paragraph is not read to its end, but to the end of the viewport.
    rw [hjudge] at hverdict
    have hwalk : i < (Chain.walk source (frame.stop - row) row).length :=
      Chain.lt_length_walk (by omega) fun _ hj => h.isWrapped_add (by omega)
    rw [layouts_straight hverdict, List.getElem?_map, List.getElem?_map,
      List.getElem?_eq_getElem hwalk, List.getElem?_eq_getElem hi]
    rfl
  | analysed lines analysis =>
    rw [hjudge] at hverdict
    rw [layouts_analysed hverdict]

/-- A paragraph goes on to the end of its chain or of the viewport. -/
theorem lt_length_layoutParagraph (h : Chain.IsTail source row rows) (hi : i < rows.length)
    (hvisible : row + i < frame.stop) :
    i < (frame.layoutParagraph source row).layouts.length := by
  by_contra hshort
  have hrow : row < frame.stop := by omega
  have hpos := frame.length_layouts_pos source hrow
  have hend := @layouts_end frame source row hrow (by omega)
  generalize (frame.layoutParagraph source row).layouts.length = length at hshort hpos hend
  rcases hend with hlast | hmissing
  · have hwrapped : source.isWrapped (row + (length - 1)) = true := h.isWrapped_add (by omega)
    rw [← Nat.add_sub_assoc hpos, hlast] at hwrapped
    cases hwrapped
  · have hpresent := h.rowAt_add (List.getElem?_eq_getElem (show length < rows.length by omega))
    rw [hmissing] at hpresent
    cases hpresent

/-- Explicit rows that agree are laid out alike, whichever of them comes first. -/
theorem chainLayouts_explicit {rtl : Bool} (hrows : rows ≠ [])
    (h : ∀ row ∈ rows, row.flags.implicit = false ∧ row.flags.rtl = rtl) :
    frame.chainLayouts rows = rows.map fun _ => { direction := .ofBool rtl } := by
  obtain ⟨head, rest, rfl⟩ := List.exists_cons_of_ne_nil hrows
  obtain ⟨hexplicit, hrtl⟩ := h head List.mem_cons_self
  have hmode : head.flags.mode.base? = none := by
    unfold DirectionFlags.mode
    rw [hexplicit]
    rfl
  have hjudge : frame.judge (head :: rest) = .straight (.ofBool rtl) .explicit := by
    unfold judge
    dsimp only
    rw [hmode, ← hrtl]
    rfl
  unfold chainLayouts
  rw [hjudge]

/-! ## Layouts of a pass -/

/-- When a pass begins at or above the first row of a chain, its rows have the layouts of
the chain. -/
theorem getElem?_layouts_of_first_le (h : Chain.IsWhole source first rows)
    (hfirst : frame.first source ≤ first) (hi : i < rows.length)
    (hrow : frame.shows (first + i) = true) :
    (frame.pass source).layouts[first + i - frame.start]? = (frame.chainLayouts rows)[i]? := by
  have hstop : first + i < frame.stop := (shows_iff.1 hrow).2
  have hlength := lt_length_layoutParagraph h.isTail hi hstop
  rw [getElem?_layouts_pass hrow, getElem?_rowLayouts hfirst h.isWrapped_above (by omega) hlength,
    getElem?_layoutParagraph h.isTail hi hstop]

theorem seeksHead_of_rowAt {content : Row} (h : source.rowAt frame.start = some content) :
    frame.seeksHead source = content.flags.implicit := by
  unfold seeksHead
  rw [h]
  exact Option.any_some

/-- A pass whose first visible row asks for the bidirectional algorithm goes back to the first row
of its chain, if this is within the limit. -/
theorem first_eq_of_seeksHead (hsource : source.StartsAtFirst)
    (h : Chain.IsWhole source first rows) (hlimit : rows.length ≤ frame.limit)
    (hseeks : frame.seeksHead source = true) (hi : i < rows.length)
    (hstart : frame.start = first + i) : frame.first source = first := by
  unfold Frame.first head?
  rw [if_pos hseeks, Chain.head?_eq hsource, hstart, h.depth_add hi, if_pos (by omega),
    Nat.add_sub_cancel]
  rfl

/-- A pass that begins inside a chain of implicit rows within the limit goes back to its
first row, however far below it the viewport begins. -/
theorem first_eq_of_implicit (hsource : source.StartsAtFirst)
    (h : Chain.IsWhole source first rows) (hlimit : rows.length ≤ frame.limit)
    (himplicit : ∀ row ∈ rows, row.flags.implicit = true) (hi : i < rows.length)
    (hstart : frame.start = first + i) : frame.first source = first := by
  have hrow : source.rowAt frame.start = some rows[i] := by
    rw [hstart]
    exact h.isTail.rowAt_add (List.getElem?_eq_getElem hi)
  refine first_eq_of_seeksHead hsource h hlimit ?_ hi hstart
  rw [seeksHead_of_rowAt hrow]
  exact himplicit _ (List.getElem_mem hi)

/-- A pass that begins inside a chain of explicit rows lays them out from there on. -/
theorem getElem?_layouts_of_explicit {rtl : Bool} {k : Nat} (h : Chain.IsTail source first rows)
    (hexplicit : ∀ row ∈ rows, row.flags.implicit = false ∧ row.flags.rtl = rtl)
    (hi : i < rows.length) (hstart : frame.start = first + k)
    (hrow : frame.shows (first + i) = true) :
    (frame.pass source).layouts[first + i - frame.start]? = (frame.chainLayouts rows)[i]? := by
  obtain ⟨hle, hstop⟩ := shows_iff.1 hrow
  have hk : k < rows.length := by omega
  have hcontent : source.rowAt frame.start = some rows[k] := by
    rw [hstart]
    exact h.rowAt_add (List.getElem?_eq_getElem hk)
  have hseeks : frame.seeksHead source = false := by
    rw [seeksHead_of_rowAt hcontent]
    exact (hexplicit _ (List.getElem_mem hk)).1
  have hfirst : frame.first source = frame.start := by
    unfold Frame.first head?
    rw [if_neg (by rw [hseeks]; exact Bool.false_ne_true)]
    rfl
  have htail := h.drop hk
  rw [← hstart] at htail
  have hrest : i - k < (rows.drop k).length := by
    rw [List.length_drop]
    omega
  have hvisible : frame.start + (i - k) < frame.stop := by
    unfold stop
    omega
  rw [getElem?_layouts_pass hrow, hfirst, rowLayouts_of_lt (by omega),
    show first + i - frame.start = i - k by omega,
    List.getElem?_append_left (lt_length_layoutParagraph htail hrest hvisible),
    getElem?_layoutParagraph htail hrest hvisible,
    chainLayouts_explicit (List.ne_nil_of_length_pos (by omega)) fun row hmem =>
      hexplicit row (List.mem_of_mem_drop hmem),
    chainLayouts_explicit (List.ne_nil_of_length_pos (by omega)) hexplicit,
    List.getElem?_map, List.getElem?_map, List.getElem?_drop, show k + (i - k) = i by omega]

/-- A visible row of a uniform chain within the limit has its layout of the chain,
wherever the viewport begins and ends. -/
theorem getElem?_layouts_of_isWhole (hsource : source.StartsAtFirst)
    (h : Chain.IsWhole source first rows) (hlimit : rows.length ≤ frame.limit)
    (huniform : Chain.IsUniform rows) (hi : i < rows.length)
    (hrow : frame.shows (first + i) = true) :
    (frame.pass source).layouts[first + i - frame.start]? = (frame.chainLayouts rows)[i]? := by
  have hvisible := shows_iff.1 hrow
  rcases Nat.le_total frame.start first with habove | hinside
  · exact getElem?_layouts_of_first_le h (Nat.le_trans (frame.first_le source) habove) hi hrow
  · obtain ⟨k, hstart⟩ := Nat.exists_eq_add_of_le hinside
    rcases huniform with himplicit | ⟨rtl, hexplicit⟩
    · have hfirst := first_eq_of_implicit hsource h hlimit himplicit (i := k) (by omega) hstart
      exact getElem?_layouts_of_first_le h (Nat.le_of_eq hfirst) hi hrow
    · exact getElem?_layouts_of_explicit h.isTail hexplicit hi hstart hrow

end Frame

end BidiViewport
