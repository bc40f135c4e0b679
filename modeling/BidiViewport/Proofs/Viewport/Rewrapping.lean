import BidiViewport.Proofs.Grid.Log
import BidiViewport.Proofs.Grid.Wrapping
import BidiViewport.Proofs.Layout.Analyses
import BidiViewport.Proofs.Layout.Isolation
import BidiViewport.Proofs.Viewport.Cohesion

/-!
# Rewrapping

A line of text is wrapped anew when the width changes, and its clusters go to other rows and
columns.  The bidirectional algorithm does not notice: at every width it is asked about the
same text, one character for each cluster (`clusterText`), so directions and levels stay what
they are (`Viewport.sameParagraph_rewrapped`).
-/

namespace BidiViewport

/-! ## The text of wrapped rows -/

/-- The text that is analysed for some clusters: the first character of each, or a space for a
paragraph separator. -/
def clusterText (clusters : List (List Char)) : List Char :=
  clusters.filterMap fun cluster =>
    cluster.head?.map fun c => if BidiClass.of c = .B then ' ' else c

theorem clusterText_append (clusters clusters' : List (List Char)) :
    clusterText (clusters ++ clusters') = clusterText clusters ++ clusterText clusters' :=
  List.filterMap_append

theorem length_clusterText {clusters : List (List Char)}
    (h : ∀ cluster ∈ clusters, cluster ≠ []) : (clusterText clusters).length = clusters.length := by
  unfold clusterText
  rw [List.filterMap_length_eq_length]
  intro cluster hcluster
  obtain ⟨base, marks, rfl⟩ := List.exists_cons_of_ne_nil (h cluster hcluster)
  rfl

theorem Cell.filterMap_group (base : Char) (marks : List Char) (columns : Nat) :
    (group base marks columns).filterMap analysedChar? = clusterText [base :: marks] := by
  have hleader : (leader base marks columns).analysedChar? =
      some (if BidiClass.of base = .B then ' ' else base) := rfl
  have hfragments : (List.replicate (columns - 1) (fragment columns)).filterMap analysedChar? =
      [] := by
    rw [List.filterMap_eq_nil_iff]
    intro cell hcell
    rw [List.eq_of_mem_replicate hcell]
    rfl
  unfold group
  rw [List.filterMap_cons_some hleader, hfragments]
  rfl

theorem Cell.Spells.filterMap_analysedChar? {cells : List Cell} {clusters : List (List Char)}
    (h : Spells cells clusters) : cells.filterMap analysedChar? = clusterText clusters := by
  induction h with
  | nil => rfl
  | cons _ _ ih =>
    rw [List.filterMap_append, ih, filterMap_group, ← clusterText_append]
    rfl

theorem Cell.Spells.takeWhile_isFragment {cells : List Cell} {clusters : List (List Char)}
    (h : Spells cells clusters) : cells.takeWhile isFragment = [] := by
  cases h <;> rfl

theorem Row.Holds.analysedText {row : Row} {width : Nat} {flags : DirectionFlags}
    {part : List (List Char)} (h : row.Holds width flags part) :
    row.analysedText width = clusterText part := by
  have hlength : row.cells.toList.length ≤ width := by
    rw [Array.length_toList]
    exact h.size_le
  unfold Row.analysedText
  rw [List.take_of_length_le hlength]
  dsimp only
  rw [h.spells.takeWhile_isFragment, h.spells.filterMap_analysedChar?]
  rfl

namespace Wrap.Prints

variable {width : Nat} {flags : DirectionFlags} {rows : List Row} {clusters : List (List Char)}

theorem flatMap_analysedText (h : Prints width flags rows clusters) :
    rows.flatMap (Row.analysedText width) = clusterText clusters := by
  induction h with
  | last hrow _ => rw [List.flatMap_singleton, hrow.analysedText]
  | more hrow _ _ ih => rw [List.flatMap_cons, ih, hrow.analysedText, clusterText_append]

theorem flags_eq (h : Prints width flags rows clusters) {row : Row} (hrow : row ∈ rows) :
    row.flags = flags := by
  obtain ⟨part, hholds, -⟩ := h.exists_part hrow
  exact hholds.flags

/-- The rows are a chain of every source that has them one below the other. -/
theorem isTail (h : Prints width flags rows clusters) {source : RowSource} {first : Nat}
    (hrows : ∀ i, source.rowAt (first + i) = rows[i]?) : Chain.IsTail source first rows := by
  induction h generalizing first with
  | last _ hend => exact .last (hrows 0) (.inl hend)
  | more _ hwrapped _ ih =>
    refine .more (hrows 0) hwrapped (ih fun i => ?_)
    rw [show first + 1 + i = first + (i + 1) by omega, hrows]
    rfl

end Wrap.Prints

/-! ## Viewports over a wrapped text -/

namespace Viewport

/-- The viewport shows a row of the text, which is wrapped at its width in a scrollback that
holds all rows of it and nothing else. -/
structure ShowsWrapped (view : Viewport) (maxRows : Nat) (text : List Char)
    (flags : DirectionFlags) : Prop where
  isReachable : view.IsReachable
  classifier : view.frame.classifier = .unicode
  width_pos : 0 < view.frame.width
  keeps : (wrapText text view.frame.width flags).length ≤ max 1 maxRows
  within : (wrapText text view.frame.width flags).length ≤ view.frame.limit
  visible : ∃ row < (wrapText text view.frame.width flags).length, view.frame.shows row = true

/-- The rows of the text at the width of the viewport. -/
def wrappedSource (view : Viewport) (maxRows : Nat) (text : List Char) (flags : DirectionFlags) :
    RowSource :=
  ((Scrollback.empty maxRows).appendText text view.frame.width flags).source

namespace ShowsWrapped

variable {view : Viewport} {maxRows : Nat} {text : List Char} {flags : DirectionFlags}
  {base : ParagraphBase}

theorem rowAt (h : view.ShowsWrapped maxRows text flags) (row : Nat) :
    (view.wrappedSource maxRows text flags).rowAt row =
      (wrapText text view.frame.width flags)[row]? :=
  Scrollback.rowAt_extend_empty h.keeps row

theorem isWhole (h : view.ShowsWrapped maxRows text flags) :
    Chain.IsWhole (view.wrappedSource maxRows text flags) 0
      (wrapText text view.frame.width flags) := by
  refine ⟨(prints_wrapText h.width_pos text flags).isTail fun i => ?_, fun above habove => ?_⟩
  · rw [Nat.zero_add]
    exact h.rowAt i
  · exact absurd habove (Nat.succ_ne_zero above)

/-- The pass begins at the first row of the text, however far below it the viewport does. -/
theorem first_eq (h : view.ShowsWrapped maxRows text flags) (himplicit : flags.implicit = true) :
    view.frame.first (view.wrappedSource maxRows text flags) = 0 := by
  obtain ⟨row, hrow, hshows⟩ := h.visible
  have hstart := (Frame.shows_iff.1 hshows).1
  refine Frame.first_eq_of_implicit (Scrollback.startsAtFirst _) h.isWhole h.within
    (fun content hcontent => ?_) (Nat.lt_of_le_of_lt hstart hrow) (Nat.zero_add _).symm
  rw [(prints_wrapText h.width_pos text flags).flags_eq hcontent]
  exact himplicit

theorem exists_head (h : view.ShowsWrapped maxRows text flags) :
    ∃ content rest, wrapText text view.frame.width flags = content :: rest ∧
      (view.wrappedSource maxRows text flags).rowAt 0 = some content ∧ content.flags = flags := by
  obtain ⟨content, rest, hrows, hcontent⟩ := h.isWhole.isTail.exists_head
  refine ⟨content, rest, hrows, hcontent, ?_⟩
  apply (prints_wrapText h.width_pos text flags).flags_eq
  rw [hrows]
  exact List.mem_cons_self

theorem call?_eq (h : view.ShowsWrapped maxRows text flags)
    (hbase : flags.mode.base? = some base) :
    view.frame.call? (wrapText text view.frame.width flags) =
      if clusterText (printedClusters text) = [] then none
      else some ⟨clusterText (printedClusters text), base⟩ := by
  obtain ⟨content, rest, hrows, -, hflags⟩ := h.exists_head
  have htext := (prints_wrapText h.width_pos text flags).flatMap_analysedText
  have hwithin := h.within
  unfold Frame.call?
  rw [htext, hrows, List.head?_cons, Option.bind_some, hflags, hbase, Option.bind_some, ← hrows]
  dsimp only
  by_cases hblank : clusterText (printedClusters text) = []
  · rw [if_pos hblank, if_neg fun hcall => hcall.2 hblank]
  · rw [if_neg hblank, if_pos ⟨hwithin, hblank⟩]

theorem verdict_eq (h : view.ShowsWrapped maxRows text flags)
    (hbase : flags.mode.base? = some base) :
    (view.frame.prepare (view.wrappedSource maxRows text flags) 0).verdict =
      if clusterText (printedClusters text) = [] then .straight flags.declared .blank
      else .analysed ((wrapText text view.frame.width flags).map (Line.ofRow view.frame.width))
        (Classifier.analysis (base.resolve (clusterText (printedClusters text)))
          (clusterText (printedClusters text))) := by
  obtain ⟨content, rest, -, hcontent, hflags⟩ := h.exists_head
  obtain ⟨reads, htail⟩ := h.isWhole.isTail.tail_eq view.frame.limit
  have htext := (prints_wrapText h.width_pos text flags).flatMap_analysedText
  rw [Frame.verdict_unicode h.classifier hcontent (hflags ▸ hbase),
    if_neg (h.isWhole.isTail.not_exceeds h.within), htail, hflags]
  dsimp only
  rw [List.take_of_length_le h.within, Line.flatMap_text_ofRow, htext]

theorem calls_eq (h : view.ShowsWrapped maxRows text flags) (himplicit : flags.implicit = true)
    (hbase : flags.mode.base? = some base) :
    (view.frame.pass (view.wrappedSource maxRows text flags)).calls =
      if clusterText (printedClusters text) = [] then []
      else [⟨clusterText (printedClusters text), base⟩] := by
  have havailable : view.frame.classifier.isAvailable = true := by
    rw [h.classifier]
    rfl
  have hfirst := h.first_eq himplicit
  have htail := h.isWhole.isTail
  rw [← hfirst] at htail
  have hbelow : ∀ row, view.frame.first (view.wrappedSource maxRows text flags) +
      (wrapText text view.frame.width flags).length ≤ row →
        (view.wrappedSource maxRows text flags).rowAt row = none := by
    intro row hrow
    rw [h.rowAt, List.getElem?_eq_none (by omega)]
  have hstop : view.frame.first (view.wrappedSource maxRows text flags) < view.frame.stop := by
    obtain ⟨row, -, hshows⟩ := h.visible
    have hvisible : row < view.frame.stop := (Frame.shows_iff.1 hshows).2
    omega
  refine (Frame.calls_of_isTail havailable htail hbelow hstop).trans ?_
  rw [h.call?_eq hbase]
  split <;> rfl

/-- All visible rows of the text have what its paragraph comes to. -/
theorem exists_map (h : view.ShowsWrapped maxRows text flags) (himplicit : flags.implicit = true)
    {row : Nat} (hrow : row < (wrapText text view.frame.width flags).length)
    (hshows : view.frame.shows row = true) :
    let source := view.wrappedSource maxRows text flags
    ∃ map, (view.recompute source).rowMap? row = some map ∧
      map.direction = (view.frame.prepare source 0).verdict.direction ∧
      map.hasForeign = (view.frame.prepare source 0).verdict.isMixed := by
  intro source
  have hfirst := h.first_eq himplicit
  have hhead : view.frame.IsHeadOf source 0 row := by
    refine ⟨Nat.le_of_eq hfirst, .inl hfirst.symm, Nat.zero_le row, fun above _ habove => ?_⟩
    have hwrapped := h.isWhole.isTail.isWrapped_add (i := above) (by omega)
    rwa [Nat.zero_add] at hwrapped
  refine h.isReachable.isSound.exists_map_of_isHeadOf hhead hshows ?_
  rw [h.rowAt, List.getElem?_eq_getElem hrow]
  rfl

end ShowsWrapped

/-- Two viewports that show the same text, each wrapped at its own width, ask about it once, in the
same words.  Their rows have the same direction, both are marked as mixed or none is, and each
cluster has the same level. -/
theorem sameParagraph_rewrapped {view₁ view₂ : Viewport} {maxRows₁ maxRows₂ : Nat}
    {text : List Char} {flags : DirectionFlags} (h₁ : view₁.ShowsWrapped maxRows₁ text flags)
    (h₂ : view₂.ShowsWrapped maxRows₂ text flags) (himplicit : flags.implicit = true) :
    let source₁ := view₁.wrappedSource maxRows₁ text flags
    let source₂ := view₂.wrappedSource maxRows₂ text flags
    let analysed := clusterText (printedClusters text)
    ∃ base, flags.mode.base? = some base ∧
      (view₁.frame.pass source₁).calls = (if analysed = [] then [] else [⟨analysed, base⟩]) ∧
      (view₂.frame.pass source₂).calls = (if analysed = [] then [] else [⟨analysed, base⟩]) ∧
      (∀ row₁ row₂, row₁ < (wrapText text view₁.frame.width flags).length →
        row₂ < (wrapText text view₂.frame.width flags).length →
        view₁.frame.shows row₁ = true → view₂.frame.shows row₂ = true →
        ∃ map₁ map₂, (view₁.recompute source₁).rowMap? row₁ = some map₁ ∧
          (view₂.recompute source₂).rowMap? row₂ = some map₂ ∧
          map₁.direction = map₂.direction ∧ map₁.hasForeign = map₂.hasForeign) ∧
      (analysed ≠ [] → ∃ analysis lines₁ lines₂,
        (view₁.frame.prepare source₁ 0).verdict = .analysed lines₁ analysis ∧
        (view₂.frame.prepare source₂ 0).verdict = .analysed lines₂ analysis ∧
        analysis.levels.size = (printedClusters text).length) := by
  intro source₁ source₂ analysed
  obtain ⟨base, hbase⟩ := DirectionFlags.exists_base? himplicit
  have hverdict₁ := h₁.verdict_eq hbase
  have hverdict₂ := h₂.verdict_eq hbase
  refine ⟨base, hbase, h₁.calls_eq himplicit hbase, h₂.calls_eq himplicit hbase,
    fun row₁ row₂ hrow₁ hrow₂ hshows₁ hshows₂ => ?_, fun hblank => ?_⟩
  · obtain ⟨map₁, hmap₁, hdirection₁, hforeign₁⟩ := h₁.exists_map himplicit hrow₁ hshows₁
    obtain ⟨map₂, hmap₂, hdirection₂, hforeign₂⟩ := h₂.exists_map himplicit hrow₂ hshows₂
    refine ⟨map₁, map₂, hmap₁, hmap₂, ?_, ?_⟩
    · rw [hdirection₁, hdirection₂, hverdict₁, hverdict₂]
      split <;> rfl
    · rw [hforeign₁, hforeign₂, hverdict₁, hverdict₂]
      split <;> rfl
  · rw [if_neg hblank] at hverdict₁ hverdict₂
    refine ⟨_, _, _, hverdict₁, hverdict₂, ?_⟩
    have hlength : (clusterText (printedClusters text)).length = (printedClusters text).length :=
      length_clusterText fun _ => ne_nil_of_mem_clusters
    simp [Classifier.analysis, hlength]

/-- A text whose last cluster is squeezed into one column, or moved to a row of its own. -/
theorem sameParagraph_rewrapped_narrow :
    let flags : DirectionFlags := { implicit := true, auto := true }
    let text : List Char := ['א', 'b', '\u0301', '世', '\n']
    let source := ((Scrollback.empty 0).extend []).source
    let narrow := (new {} .unicode).replay [(source, .set (.width 1)), (source, .set (.rows 2 5))]
    let wide := (new {} .unicode).replay [(source, .set (.width 3)), (source, .set (.rows 0 1))]
    let source₁ := narrow.wrappedSource 3 text flags
    let source₂ := wide.wrappedSource 2 text flags
    narrow.ShowsWrapped 3 text flags ∧ wide.ShowsWrapped 2 text flags ∧
      (narrow.frame.pass source₁).calls = [⟨['א', 'b', '世'], .auto .ltr⟩] ∧
      (wide.frame.pass source₂).calls = [⟨['א', 'b', '世'], .auto .ltr⟩] ∧
      (∃ map₁ map₂, (narrow.recompute source₁).rowMap? 2 = some map₁ ∧
        (wide.recompute source₂).rowMap? 0 = some map₂ ∧
        map₁.direction = map₂.direction ∧ map₁.hasForeign = map₂.hasForeign) ∧
      ∃ analysis lines₁ lines₂,
        (narrow.frame.prepare source₁ 0).verdict = .analysed lines₁ analysis ∧
        (wide.frame.prepare source₂ 0).verdict = .analysed lines₂ analysis ∧
        analysis.levels.size = 3 := by
  intro flags text source narrow wide source₁ source₂
  have hclusters : printedClusters text = [['א'], ['b', '\u0301'], ['世']] := by decide +kernel
  have htext : clusterText (printedClusters text) = ['א', 'b', '世'] := by
    rw [hclusters]
    decide +kernel
  have hnarrow : (wrapText text 1 flags).length = 3 := by decide +kernel
  have hwide : (wrapText text 3 flags).length = 2 := by decide +kernel
  have h₁ : narrow.ShowsWrapped 3 text flags :=
    { isReachable := ⟨{}, .unicode, _, rfl⟩
      classifier := rfl
      width_pos := by decide
      keeps := Nat.le_of_eq hnarrow
      within := Nat.le_trans (Nat.le_of_eq hnarrow) (by decide)
      visible := ⟨2, Nat.lt_of_lt_of_eq (by decide) hnarrow.symm, by decide⟩ }
  have h₂ : wide.ShowsWrapped 2 text flags :=
    { isReachable := ⟨{}, .unicode, _, rfl⟩
      classifier := rfl
      width_pos := by decide
      keeps := Nat.le_of_eq hwide
      within := Nat.le_trans (Nat.le_of_eq hwide) (by decide)
      visible := ⟨0, Nat.lt_of_lt_of_eq (by decide) hwide.symm, by decide⟩ }
  obtain ⟨base, hbase, hcalls₁, hcalls₂, hmaps, hlevels⟩ := sameParagraph_rewrapped h₁ h₂ rfl
  obtain rfl : ParagraphBase.auto .ltr = base := Option.some.inj hbase
  rw [htext] at hcalls₁ hcalls₂ hlevels
  rw [hclusters] at hlevels
  exact ⟨h₁, h₂, hcalls₁, hcalls₂, hmaps 2 0 (Nat.lt_of_lt_of_eq (by decide) hnarrow.symm)
    (Nat.lt_of_lt_of_eq (by decide) hwide.symm) (by decide) (by decide),
    hlevels (List.cons_ne_nil _ _)⟩

end Viewport

end BidiViewport
