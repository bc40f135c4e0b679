import BidiViewport.Layout.Pass
import BidiViewport.Proofs.Layout.Chains
import BidiViewport.Proofs.Layout.Columns

/-!
# The paragraphs of a pass

* A paragraph goes on only past soft-wrapped rows (`Frame.isWrapped_of_layouts`), so it
  never goes past the end of a chain, and it stops early only at the end of the viewport
  (`Frame.layouts_end`).
* A pass gives each visible row one layout (`Frame.length_layouts_pass`): that of the
  paragraph of the row.  From the first row of a chain on, the layouts do not depend on
  what was laid out above it (`Frame.drop_rowLayouts`).
* `Frame.Completes`: every order of a pass is a bijection.  With a classifier that keeps
  its promise every pass completes (`Frame.completes_of_wellFormed`).
-/

namespace BidiViewport

namespace Frame

variable {frame : Frame} {source : RowSource} {row : Nat}

/-! ## Verdicts -/

/-- An analysed paragraph has the rows of its chain, all of them, and an analysis of
their text. -/
theorem analysed_of_prepare {lines : List Line} {analysis : Analysis}
    (h : (frame.prepare source row).verdict = .analysed lines analysis) :
    (Chain.tail source frame.limit row).isOverlong = false ∧
      lines = (Chain.tail source frame.limit row).rows.map (Line.ofRow frame.width) ∧
      ∃ base, frame.classifier.analyze (lines.flatMap Line.text) base = .ok analysis := by
  have hprepares := frame.prepares source row
  generalize frame.prepare source row = prepared at h hprepares
  cases hprepares with
  | analysed hasks hshort _ hanalysis =>
    cases h
    exact ⟨hshort, hasks.lines_eq, _, hanalysis⟩
  | _ => cases h

theorem layouts_straight {direction : Direction} {cause : StraightCause}
    (h : (frame.prepare source row).verdict = .straight direction cause) :
    (frame.layoutParagraph source row).layouts =
      (Chain.walk source (frame.stop - row) row).map fun _ => { direction } := by
  simp only [layoutParagraph, h]

theorem layouts_analysed {lines : List Line} {analysis : Analysis}
    (h : (frame.prepare source row).verdict = .analysed lines analysis) :
    (frame.layoutParagraph source row).layouts =
      (frame.orderedLines lines analysis).map (orElseStraight analysis) := by
  simp only [layoutParagraph, h]

theorem length_layouts_analysed {lines : List Line} {analysis : Analysis}
    (h : (frame.prepare source row).verdict = .analysed lines analysis) :
    (frame.layoutParagraph source row).layouts.length =
      (Chain.tail source frame.limit row).rows.length := by
  rw [layouts_analysed h, List.length_map, orderedLines, Line.length_layoutsFrom,
    (analysed_of_prepare h).2.1, List.length_map]

/-! ## How far a paragraph goes -/

theorem isWrapped_of_layouts {i : Nat}
    (hi : i + 1 < (frame.layoutParagraph source row).layouts.length) :
    source.isWrapped (row + i) = true := by
  cases hverdict : (frame.prepare source row).verdict with
  | straight direction cause =>
    rw [layouts_straight hverdict, List.length_map] at hi
    exact Chain.isWrapped_of_walk hi
  | analysed lines analysis =>
    rw [length_layouts_analysed hverdict] at hi
    exact Chain.isWrapped_of_tail hi

/-- A paragraph does not go past a row that is not soft-wrapped. -/
theorem layouts_le_of_not_wrapped {last : Nat} (hle : row ≤ last)
    (h : source.isWrapped last = false) :
    row + (frame.layoutParagraph source row).layouts.length ≤ last + 1 := by
  by_contra hlong
  have hwrapped : source.isWrapped (row + (last - row)) = true :=
    @isWrapped_of_layouts frame source row (last - row) (by omega)
  rw [Nat.add_sub_cancel' hle, h] at hwrapped
  cases hwrapped

/-- A paragraph ends at the end of its chain or of the viewport. -/
theorem layouts_end (hrow : row < frame.stop)
    (h : row + (frame.layoutParagraph source row).layouts.length < frame.stop) :
    source.isWrapped (row + (frame.layoutParagraph source row).layouts.length - 1) = false ∨
      source.rowAt (row + (frame.layoutParagraph source row).layouts.length) = none := by
  cases hverdict : (frame.prepare source row).verdict with
  | straight direction cause =>
    rw [layouts_straight hverdict, List.length_map] at h ⊢
    exact .inl (Chain.walk_ends (by omega))
  | analysed lines analysis =>
    have hpos := frame.length_layouts_pos source hrow
    rw [length_layouts_analysed hverdict] at hpos ⊢
    exact Chain.tail_ends hpos (analysed_of_prepare hverdict).1

/-! ## The layouts of the rows of a pass -/

/-- Induction along the paragraphs of a pass, from one that begins at a row to the next
one, up to the end of the viewport. -/
theorem paragraphs_induction (frame : Frame) (source : RowSource) {motive : Nat → Prop}
    (next : ∀ row, row < frame.stop →
      motive (row + (frame.layoutParagraph source row).layouts.length) → motive row)
    (done : ∀ row, frame.stop ≤ row → motive row) (row : Nat) : motive row :=
  paragraphsFrom.induct frame source motive (fun row hrow _ ih => next row hrow ih)
    (fun row hrow => done row (Nat.le_of_not_lt hrow)) row

theorem paragraphsFrom_of_lt (h : row < frame.stop) :
    frame.paragraphsFrom source row = frame.layoutParagraph source row ::
      frame.paragraphsFrom source
        (row + (frame.layoutParagraph source row).layouts.length) := by
  rw [paragraphsFrom, dif_pos h]

theorem paragraphsFrom_of_le (h : frame.stop ≤ row) : frame.paragraphsFrom source row = [] := by
  rw [paragraphsFrom, dif_neg (Nat.not_lt.2 h)]

theorem exists_row_of_mem_paragraphsFrom {paragraph : ParagraphLayout}
    (h : paragraph ∈ frame.paragraphsFrom source row) :
    ∃ first, paragraph = frame.layoutParagraph source first := by
  induction row using paragraphs_induction frame source with
  | next row hrow ih =>
    rw [paragraphsFrom_of_lt hrow] at h
    rcases List.mem_cons.1 h with rfl | hlater
    · exact ⟨row, rfl⟩
    · exact ih hlater
  | done row hrow =>
    rw [paragraphsFrom_of_le hrow] at h
    cases h

/-- The layouts of the rows from `row` on when a paragraph begins there. -/
def rowLayouts (frame : Frame) (source : RowSource) (row : Nat) : List RowLayout :=
  (frame.paragraphsFrom source row).flatMap (·.layouts)

theorem rowLayouts_of_lt (h : row < frame.stop) :
    frame.rowLayouts source row = (frame.layoutParagraph source row).layouts ++
      frame.rowLayouts source (row + (frame.layoutParagraph source row).layouts.length) := by
  unfold rowLayouts
  rw [paragraphsFrom_of_lt h, List.flatMap_cons]

theorem rowLayouts_of_le (h : frame.stop ≤ row) : frame.rowLayouts source row = [] := by
  unfold rowLayouts
  rw [paragraphsFrom_of_le h]
  rfl

/-- The paragraphs go on to the end of the viewport. -/
theorem le_length_rowLayouts (frame : Frame) (source : RowSource) (row : Nat) :
    frame.stop - row ≤ (frame.rowLayouts source row).length := by
  induction row using paragraphs_induction frame source with
  | next row hrow ih =>
    rw [rowLayouts_of_lt hrow, List.length_append]
    omega
  | done row hrow => omega

/-- Below a row that is not soft-wrapped the layouts are those of a pass that begins
there: some paragraph begins there whatever rows are above. -/
theorem drop_rowLayouts {boundary : Nat} (hle : row ≤ boundary)
    (hboundary : ∀ above, above + 1 = boundary → source.isWrapped above = false) :
    (frame.rowLayouts source row).drop (boundary - row) = frame.rowLayouts source boundary := by
  induction row using paragraphs_induction frame source with
  | next row hrow ih =>
    rcases Nat.eq_or_lt_of_le hle with rfl | hlt
    · rw [Nat.sub_self, List.drop_zero]
    · have hend : row + (frame.layoutParagraph source row).layouts.length ≤ boundary - 1 + 1 :=
        layouts_le_of_not_wrapped (by omega) (hboundary _ (by omega))
      rw [rowLayouts_of_lt hrow, List.drop_append, List.drop_of_length_le (by omega),
        List.nil_append, Nat.sub_sub]
      exact ih (by omega)
  | done row hrow => rw [rowLayouts_of_le (by omega), rowLayouts_of_le (by omega), List.drop_nil]

/-! ## The layouts of the visible rows -/

theorem shows_iff : frame.shows row = true ↔ frame.start ≤ row ∧ row < frame.start + frame.size := by
  unfold shows stop
  rw [Bool.and_eq_true, decide_eq_true_iff, decide_eq_true_iff]

theorem sub_start_lt_size (h : frame.shows row = true) : row - frame.start < frame.size := by
  have := shows_iff.1 h
  omega

theorem le_of_head? {limit first : Nat} (h : Chain.head? source limit row = some first) :
    first ≤ row := by
  induction limit generalizing row with
  | zero => cases h
  | succ limit ih =>
    unfold Chain.head? at h
    split at h
    · exact Nat.le_of_eq (Option.some.inj h).symm
    · split at h
      · have := ih h
        omega
      · exact Nat.le_of_eq (Option.some.inj h).symm

/-- The row at which a pass begins. -/
def first (frame : Frame) (source : RowSource) : Nat :=
  (frame.head? source).getD frame.start

theorem first_le (frame : Frame) (source : RowSource) : frame.first source ≤ frame.start := by
  unfold first head?
  split
  · cases h : Chain.head? source frame.limit frame.start with
    | none => exact Nat.le_refl _
    | some first => exact le_of_head? h
  · exact Nat.le_refl _

theorem layouts_pass (frame : Frame) (source : RowSource) : (frame.pass source).layouts =
    ((frame.rowLayouts source (frame.first source)).drop
      (frame.start - frame.first source)).take frame.size := rfl

theorem exists_row_of_mem_layouts_pass {layout : RowLayout}
    (h : layout ∈ (frame.pass source).layouts) :
    ∃ row, layout ∈ (frame.layoutParagraph source row).layouts := by
  rw [layouts_pass] at h
  obtain ⟨paragraph, hparagraph, hlayout⟩ :=
    List.mem_flatMap.1 (List.mem_of_mem_drop (List.mem_of_mem_take h))
  obtain ⟨row, rfl⟩ := exists_row_of_mem_paragraphsFrom hparagraph
  exact ⟨row, hlayout⟩

/-- Every visible row has one layout. -/
theorem length_layouts_pass (frame : Frame) (source : RowSource) :
    (frame.pass source).layouts.length = frame.size := by
  have hfirst := frame.first_le source
  have hlength := frame.le_length_rowLayouts source (frame.first source)
  have hstop : frame.stop = frame.start + frame.size := rfl
  rw [layouts_pass, List.length_take, List.length_drop]
  omega

theorem exists_layout (source : RowSource) (hrow : frame.shows row = true) :
    ∃ layout, (frame.pass source).layouts[row - frame.start]? = some layout := by
  have hlt : row - frame.start < (frame.pass source).layouts.length := by
    rw [length_layouts_pass]
    exact sub_start_lt_size hrow
  exact ⟨_, List.getElem?_eq_getElem hlt⟩

/-- The layout of the visible row `row` is the one of its place below the first row. -/
theorem getElem?_layouts_pass (hrow : frame.shows row = true) :
    (frame.pass source).layouts[row - frame.start]? =
      (frame.rowLayouts source (frame.first source))[row - frame.first source]? := by
  have hfirst := frame.first_le source
  have hstart := (shows_iff.1 hrow).1
  rw [layouts_pass, List.getElem?_take_of_lt (sub_start_lt_size hrow), List.getElem?_drop]
  congr 1
  omega

/-- The layout of a row of the paragraph that begins at the first row of a chain. -/
theorem getElem?_rowLayouts {boundary i : Nat} (hle : row ≤ boundary)
    (hboundary : ∀ above, above + 1 = boundary → source.isWrapped above = false)
    (hstop : boundary < frame.stop)
    (hi : i < (frame.layoutParagraph source boundary).layouts.length) :
    (frame.rowLayouts source row)[boundary + i - row]? =
      (frame.layoutParagraph source boundary).layouts[i]? := by
  rw [show boundary + i - row = (boundary - row) + i by omega, ← List.getElem?_drop,
    drop_rowLayouts hle hboundary, rowLayouts_of_lt hstop, List.getElem?_append_left hi]

/-! ## Passes that complete -/

/-- Every order that the pass puts into a row map is a bijection: no row fails the check. -/
def Completes (frame : Frame) (source : RowSource) : Prop :=
  ∀ layout ∈ (frame.pass source).layouts, layout.IsBijection frame.width

theorem isBijection_of_mem_layouts (hwf : frame.classifier.WellFormed) {layout : RowLayout}
    (h : layout ∈ (frame.layoutParagraph source row).layouts) :
    layout.IsBijection frame.width := by
  cases hverdict : (frame.prepare source row).verdict with
  | straight direction cause =>
    rw [layouts_straight hverdict] at h
    obtain ⟨_, _, rfl⟩ := List.mem_map.1 h
    exact RowLayout.isBijection_straight _ _ _
  | analysed lines analysis =>
    obtain ⟨-, hlines, base, hanalysis⟩ := analysed_of_prepare hverdict
    have hanalysis := hwf _ _ _ hanalysis
    rw [layouts_analysed hverdict] at h
    obtain ⟨result, hresult, rfl⟩ := List.mem_map.1 h
    cases result with
    | error error => exact RowLayout.isBijection_straight _ _ _
    | ok layout =>
      rw [hlines] at hanalysis hresult
      exact Line.layoutsFrom_isBijection hanalysis (Nat.le_of_eq (Nat.zero_add _)) layout hresult

/-- A classifier that keeps its promise never makes a pass fail. -/
theorem completes_of_wellFormed (hwf : frame.classifier.WellFormed) (source : RowSource) :
    frame.Completes source := by
  intro layout h
  obtain ⟨row, hlayout⟩ := exists_row_of_mem_layouts_pass h
  exact isBijection_of_mem_layouts hwf hlayout

end Frame

end BidiViewport
