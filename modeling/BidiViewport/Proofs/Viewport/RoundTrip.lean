import Mathlib.Data.List.DropRight
import BidiViewport.Proofs.Grid.Log
import BidiViewport.Proofs.Grid.Margins
import BidiViewport.Proofs.Grid.SingleRow
import BidiViewport.Proofs.Layout.LeftToRight
import BidiViewport.Proofs.Viewport.Printing
import BidiViewport.Proofs.Viewport.Rewrapping

/-!
# Printing wrapped text

A text that is read from left to right is printed as it was written: each row prints its clusters,
and blanks up to the width.  Without the blanks the printed rows are the text
(`Viewport.visualText_of_wrapped`).

In a row where every column is at its own place (`RowMap.IsUpright`) a column prints the cluster of
its cell if it has a leader, and nothing if the leader is further left
(`RowMap.text_pieceAt_of_cell`).
-/

namespace BidiViewport

/-! ## Clusters and their columns -/

theorem Cell.flatten_filterMap_cluster? (cells : List Cell) :
    (cells.filterMap cluster?).flatten = cells.flatMap fun cell => cell.cluster?.getD [] := by
  induction cells with
  | nil => rfl
  | cons cell rest ih =>
    cases cell with
    | leader base marks columns =>
      have hcluster : (leader base marks columns).cluster? = some (base :: marks) := rfl
      rw [List.filterMap_cons_some hcluster, List.flatten_cons, ih, List.flatMap_cons]
      rfl
    | fragment columns =>
      have hcluster : (fragment columns).cluster? = none := rfl
      rw [List.filterMap_cons_none hcluster, ih, List.flatMap_cons]
      rfl

namespace Row

variable {content : Row} {column : Nat}

theorem leaderColumn?_self {base : Char} {marks : List Char} {columns : Nat}
    (h : content.cell? column = some (.leader base marks columns)) :
    content.leaderColumn? column = some column :=
  leaderColumn?_of_led h (Nat.le_refl column) (Nat.lt_succ_self column) fun _ hlater hbehind =>
    absurd hbehind (Nat.not_lt.2 hlater)

/-- No cell of a row that is made of clusters is without a leader. -/
theorem exists_leaderColumn? {clusters : List (List Char)}
    (h : Cell.Spells content.cells.toList clusters) (hlt : column < content.size) :
    ∃ leader, content.leaderColumn? column = some leader := by
  have hcell : content.cell? column = some content.cells[column] := Array.getElem?_eq_getElem hlt
  generalize content.cells[column] = cell at hcell
  induction column generalizing cell with
  | zero =>
    have hfirst : content.cells.toList.takeWhile Cell.isFragment = [] := h.takeWhile_isFragment
    cases cell with
    | leader base marks columns => exact ⟨0, leaderColumn?_self hcell⟩
    | fragment columns =>
      unfold cell? at hcell
      rw [← Array.getElem?_toList] at hcell
      cases hcells : content.cells.toList with
      | nil =>
        rw [hcells] at hcell
        cases hcell
      | cons first rest =>
        rw [hcells] at hcell hfirst
        obtain rfl : first = .fragment columns := Option.some.inj hcell
        cases hfirst
  | succ column ih =>
    cases cell with
    | leader base marks columns => exact ⟨column + 1, leaderColumn?_self hcell⟩
    | fragment columns =>
      have hlt : column < content.size := by omega
      rw [leaderColumn?, hcell, Option.bind_some]
      exact ih hlt _ (Array.getElem?_eq_getElem hlt)

end Row

/-! ## Rows with every column at its own place -/

namespace RowMap

variable {map : RowMap} {content : Row} {clusters : List (List Char)}

/-- Every column is at its own place from left to right, and none has a glyph. -/
structure IsUpright (map : RowMap) : Prop where
  toLogical : ∀ visual, map.toLogical visual = visual
  visualDirection : ∀ visual, map.visualDirection visual = .ltr
  glyph? : ∀ visual, map.glyph? visual = none

theorem Shows.isUpright {layout : RowLayout} (h : map.Shows layout)
    (hstraight : layout.RunsStraight map.width) : map.IsUpright := by
  refine ⟨fun visual => ?_, fun visual => ?_, fun visual => ?_⟩
  · rw [h.toLogical, hstraight.toLogical_eq]
  · rw [h.visualDirection, hstraight.visualDirection_eq]
  · rw [h.glyph?, hstraight.glyph?_eq]

/-- A column prints the cluster of its cell: all of it at the leader, and nothing more at the
fragments behind. -/
theorem text_pieceAt_of_cell (h : map.IsUpright) (classifier : Classifier)
    (hspells : Cell.Spells content.cells.toList clusters)
    (hplain : ∀ cluster ∈ clusters, ∀ c ∈ cluster, isControl c = false) {visual : Nat} {cell : Cell}
    (hcell : content.cell? visual = some cell) :
    (map.pieceAt classifier content visual).text = cell.cluster?.getD [] := by
  have hleaderAt (column : Nat) : map.leaderAt? content column = content.leaderColumn? column :=
    leaderAt?_eq (h.toLogical column)
  have hprinted {column : Nat} {base : Char} {marks : List Char} {columns : Nat}
      (hleader : content.cell? column = some (.leader base marks columns)) :
      isControl base = false := by
    have hmem : Cell.leader base marks columns ∈ content.cells.toList :=
      Array.mem_toList_iff.2 (Array.mem_of_getElem? hleader)
    exact hplain (base :: marks) (hspells.mem_of_leader hmem) base List.mem_cons_self
  cases cell with
  | leader base marks columns =>
    have hfirst : ¬∃ earlier < visual, map.leaderAt? content earlier = some visual := by
      rintro ⟨earlier, hearlier, hsame⟩
      rw [hleaderAt] at hsame
      have hle := (Row.leader_of_leaderColumn? hsame).1
      omega
    have hglyph :
        map.printedGlyph classifier content.flags.boxMirror visual visual base = base := by
      unfold printedGlyph
      rw [h.glyph?, h.visualDirection]
    rw [pieceAt_of_leader classifier ((hleaderAt visual).trans (Row.leaderColumn?_self hcell)) hcell,
      if_neg (by rw [hprinted hcell]; exact Bool.false_ne_true), if_neg hfirst, hglyph]
    rfl
  | fragment columns =>
    have hlt : visual < content.size := (Array.getElem?_eq_some_iff.1 hcell).1
    obtain ⟨leader, hleader⟩ := Row.exists_leaderColumn? hspells hlt
    obtain ⟨hle, base, marks, columns', hcell'⟩ := Row.leader_of_leaderColumn? hleader
    -- The leader is another cell, so it has been printed on the left.
    have hbefore : leader < visual := by
      refine Nat.lt_of_le_of_ne hle ?_
      rintro rfl
      cases hcell.symm.trans hcell'
    rw [pieceAt_of_leader classifier ((hleaderAt visual).trans hleader) hcell',
      if_neg (by rw [hprinted hcell']; exact Bool.false_ne_true),
      if_pos ⟨leader, hbefore, (hleaderAt leader).trans (Row.leaderColumn?_self hcell')⟩]
    rfl

theorem flatMap_blank (classifier : Classifier) {visuals : List Nat}
    (h : ∀ visual ∈ visuals, map.leaderAt? content visual = none) :
    (visuals.flatMap fun visual => (map.pieceAt classifier content visual).text) =
      List.replicate visuals.length ' ' := by
  induction visuals with
  | nil => rfl
  | cons visual rest ih =>
    obtain ⟨hfirst, hrest⟩ := List.forall_mem_cons.1 h
    rw [List.flatMap_cons, ih hrest, pieceAt_of_none classifier hfirst]
    rfl

/-- A row without cells prints blanks, whatever its map. -/
theorem visualText_of_empty (classifier : Classifier) (h : content.size = 0) :
    map.visualText classifier (some content) = List.replicate map.width ' ' := by
  have hnone : ∀ visual ∈ List.range' 0 map.width, map.leaderAt? content visual = none := by
    intro visual _
    unfold leaderAt?
    dsimp only
    split
    · rfl
    · exact Row.leaderColumn?_of_past (by omega)
  rw [visualText, map.visualTextFrom_eq classifier content map.width (map.hasPrinted_zero content),
    flatMap_blank classifier hnone, List.length_range']

/-- A row that is made of clusters prints them, and blanks up to the width. -/
theorem visualText_of_upright (h : map.IsUpright) (classifier : Classifier)
    (hspells : Cell.Spells content.cells.toList clusters)
    (hplain : ∀ cluster ∈ clusters, ∀ c ∈ cluster, isControl c = false)
    (hsize : content.size ≤ map.width) :
    map.visualText classifier (some content) =
      content.leaderClusters.flatten ++ List.replicate (map.width - content.size) ' ' := by
  have hcells : (List.range content.size).map (fun visual =>
      (map.pieceAt classifier content visual).text) =
        content.cells.toList.map fun cell => cell.cluster?.getD [] := by
    refine List.ext_getElem ?_ fun visual hvisual _ => ?_
    · rw [List.length_map, List.length_map, List.length_range, Array.length_toList]
      rfl
    · rw [List.length_map, List.length_range] at hvisual
      rw [List.getElem_map, List.getElem_map, List.getElem_range, Array.getElem_toList]
      exact text_pieceAt_of_cell h classifier hspells hplain (Array.getElem?_eq_getElem hvisual)
  have hbehind : ∀ visual ∈ List.range' content.size (map.width - content.size),
      map.leaderAt? content visual = none := by
    intro visual hvisual
    rw [leaderAt?_eq (h.toLogical visual)]
    exact Row.leaderColumn?_of_past (List.mem_range'_1.1 hvisual).1
  rw [visualText, map.visualTextFrom_eq classifier content map.width (map.hasPrinted_zero content),
    ← List.range_eq_range', Line.range_eq_append hsize, List.flatMap_append,
    flatMap_blank classifier hbehind, List.length_range', Row.leaderClusters,
    Cell.flatten_filterMap_cluster?, List.flatMap_def, hcells, List.flatMap_def]

end RowMap

/-! ## Texts in a scrollback -/

namespace Scrollback

variable {s : Scrollback} {log : List Row} {text : List Char} {width : Nat} {flags : DirectionFlags}

/-- The rows of a text that was appended, if all of them are kept. -/
theorem Logs.rowAt_appendText (h : s.Logs log)
    (hkeeps : (wrapText text width flags).length ≤ s.maxRows) (i : Nat) :
    (s.appendText text width flags).source.rowAt (s.nextRow + i) =
      (wrapText text width flags)[i]? := by
  have hlogs := h.extend (wrapText text width flags)
  have hkept : (s.extend (wrapText text width flags)).firstRow ≤ log.length + i := by
    rw [hlogs.firstRow, maxRows_extend, List.length_append]
    omega
  rw [h.nextRow_eq, rowAt_source, appendText, hlogs.row?_eq, if_pos hkept,
    List.getElem?_append_right (Nat.le_add_right _ _), Nat.add_sub_cancel_left]

theorem Logs.isTail_appendText (h : s.Logs log) (hwidth : 0 < width)
    (hkeeps : (wrapText text width flags).length ≤ s.maxRows) :
    Chain.IsTail (s.appendText text width flags).source s.nextRow (wrapText text width flags) :=
  (prints_wrapText hwidth text flags).isTail (h.rowAt_appendText hkeeps)

end Scrollback

/-- Nothing of a text without controls is left out. -/
theorem printedClusters_of_plain {text : List Char} (h : ∀ c ∈ text, isControl c = false) :
    printedClusters text = clusters text := by
  refine printedClusters_eq_clusters fun c hc => ?_
  have hplain := h c (List.mem_of_getLast? hc)
  constructor
  · rintro rfl
    cases hplain
  · rintro rfl
    cases hplain

namespace Viewport

/-- A text without controls is wrapped at the width of the viewport into a scrollback that keeps
all rows of it, and read from left to right there.  No visible row above it is in its paragraph. -/
structure ReadsText (view : Viewport) (s : Scrollback) (text : List Char) (flags : DirectionFlags) :
    Prop where
  isReachable : view.IsReachable
  width_pos : 0 < view.frame.width
  plain : ∀ c ∈ text, isControl c = false
  logs : ∃ log, s.Logs log
  keeps : (wrapText text view.frame.width flags).length ≤ s.maxRows
  reads : view.frame.ReadsLeftToRight (s.appendText text view.frame.width flags).source s.nextRow
    (wrapText text view.frame.width flags)
  begins : s.nextRow ≤ view.frame.start ∨ ∀ above, above + 1 = s.nextRow →
    (s.appendText text view.frame.width flags).source.isWrapped above = false

namespace ReadsText

variable {view : Viewport} {s : Scrollback} {text : List Char} {flags : DirectionFlags}

theorem visualText?_eq (h : view.ReadsText s text flags) {i : Nat} {content : Row}
    (hi : (wrapText text view.frame.width flags)[i]? = some content)
    (hshows : view.frame.shows (s.nextRow + i) = true) :
    let source := (s.appendText text view.frame.width flags).source
    (view.recompute source).visualText? source (s.nextRow + i) =
      some (content.leaderClusters.flatten ++
        List.replicate (view.frame.width - content.size) ' ') := by
  intro source
  obtain ⟨log, hlogs⟩ := h.logs
  have hrow : source.rowAt (s.nextRow + i) = some content :=
    (hlogs.rowAt_appendText h.keeps i).trans hi
  obtain ⟨part, hholds, hpart⟩ :=
    (prints_wrapText h.width_pos text flags).exists_part (List.mem_of_getElem? hi)
  have hplain : ∀ cluster ∈ part, ∀ c ∈ cluster, isControl c = false := by
    intro cluster hcluster c hc
    have hmem := hpart cluster hcluster
    rw [printedClusters_of_plain h.plain] at hmem
    refine h.plain c ?_
    rw [← flatten_clusters text]
    exact List.mem_flatten.2 ⟨cluster, hmem, hc⟩
  have hsound := h.isReachable.isSound
  by_cases hempty : part = []
  · -- A row without cells is blank, wherever its columns are drawn.
    have hcells : content.cells.toList = [] := by
      have hspells := hholds.spells
      rw [hempty] at hspells
      generalize content.cells.toList = cells at hspells
      cases hspells
      rfl
    have hsize : content.size = 0 := by
      rw [Row.size, ← Array.length_toList, hcells]
      rfl
    obtain ⟨map, layout, hfits, -, hmap⟩ := hsound.rowMap?_recompute source hshows
    have hwidth : (map.apply layout).width = view.frame.width := (hfits.apply layout).width_eq
    unfold visualText?
    rw [hmap, Option.map_some, hrow, RowMap.visualText_of_empty _ hsize, hwidth,
      Row.leaderClusters, hcells, hsize]
    rfl
  · have htext : content.analysedText view.frame.width ≠ [] := by
      rw [hholds.analysedText]
      refine List.ne_nil_of_length_pos ?_
      rw [length_clusterText fun cluster hcluster => ne_nil_of_mem_clusters (hpart cluster hcluster)]
      exact List.length_pos_of_ne_nil hempty
    obtain ⟨layout, hlayout, hstraight⟩ := h.reads.exists_layout (Scrollback.startsAtFirst _)
      (hlogs.isTail_appendText h.width_pos h.keeps) h.begins hi htext hshows
    obtain ⟨map, hmap, hwidth, hshown⟩ := (hsound.isCurrent_recompute source).exists_shows hshows
      hlayout hstraight.isPlain.isBijection
    have hwidth : map.width = view.frame.width := hwidth
    have hupright : map.IsUpright := hshown.isUpright (by rwa [hwidth])
    have hsize : content.size ≤ map.width := by
      rw [hwidth]
      exact hholds.size_le
    unfold visualText?
    rw [hmap, Option.map_some, hrow, RowMap.visualText_of_upright hupright _ hholds.spells hplain
      hsize, hwidth]

end ReadsText

/-- The text of each visible row of a wrapped text is its clusters and one blank for each column
that the row has not filled.  Without the blanks the texts of all rows, one after the other, are
the text that was wrapped. -/
theorem visualText_of_wrapped {view : Viewport} {s : Scrollback} {text : List Char}
    {flags : DirectionFlags} (h : view.ReadsText s text flags) :
    let width := view.frame.width
    let rows := wrapText text width flags
    let source := (s.appendText text width flags).source
    ∃ lines : List (List Char),
      (∀ i content, rows[i]? = some content → source.rowAt (s.nextRow + i) = some content ∧
        lines[i]? = some (content.leaderClusters.flatten ++
          List.replicate (width - content.size) ' ') ∧
        (view.frame.shows (s.nextRow + i) = true →
          (view.recompute source).visualText? source (s.nextRow + i) = lines[i]?)) ∧
      rows.flatMap Row.leaderClusters = clusters text ∧
      (rows.zipWith (fun content line => line.rdrop (width - content.size)) lines).flatten =
        text := by
  intro width rows source
  obtain ⟨log, hlogs⟩ := h.logs
  have hclusters : rows.flatMap Row.leaderClusters = clusters text := by
    rw [(prints_wrapText h.width_pos text flags).flatMap_leaderClusters,
      printedClusters_of_plain h.plain]
  refine ⟨rows.map fun content => content.leaderClusters.flatten ++
    List.replicate (width - content.size) ' ', fun i content hi => ?_, hclusters, ?_⟩
  · have hline : (rows.map fun content => content.leaderClusters.flatten ++
        List.replicate (width - content.size) ' ')[i]? = some (content.leaderClusters.flatten ++
          List.replicate (width - content.size) ' ') := by
      rw [List.getElem?_map, hi, Option.map_some]
    refine ⟨(hlogs.rowAt_appendText h.keeps i).trans hi, hline, fun hshows => ?_⟩
    exact (h.visualText?_eq hi hshows).trans hline.symm
  · have hdropped (content : Row) : (content.leaderClusters.flatten ++
        List.replicate (width - content.size) ' ').rdrop (width - content.size) =
          content.leaderClusters.flatten := by
      rw [List.rdrop, List.length_append, List.length_replicate, Nat.add_sub_cancel,
        List.take_left]
    calc (rows.zipWith (fun content line => line.rdrop (width - content.size))
          (rows.map fun content => content.leaderClusters.flatten ++
            List.replicate (width - content.size) ' ')).flatten
        = (rows.map fun content => content.leaderClusters.flatten).flatten := by
          rw [List.zipWith_map_right, List.zipWith_self]
          simp only [hdropped]
      _ = (rows.flatMap Row.leaderClusters).flatten := by
          rw [List.flatMap_def, List.flatten_flatten, List.map_map]
          rfl
      _ = text := by rw [hclusters, flatten_clusters]

/-- A text with a wide character and an accent in rows of two columns.  The first of its rows
continues a row that was there before, and is above the viewport. -/
theorem visualText_of_wrapped_behind :
    let flags : DirectionFlags := { implicit := true, auto := true }
    let above : Row := { cells := #[.leader 'x' [] 1], softWrapped := true, flags }
    let text : List Char := ['a', '世', 'b', '\u0301']
    let s := (Scrollback.empty 9).extend [above]
    let view := (new {} .unicode).replay [(s.source, .set (.width 2)), (s.source, .set (.rows 2 2))]
    let source := (s.appendText text 2 flags).source
    view.ReadsText s text flags ∧
      (view.recompute source).visualText? source 2 = some ['世'] ∧
      (view.recompute source).visualText? source 3 = some ['b', '\u0301', ' '] := by
  intro flags above text s view source
  have hlogs : s.Logs [above] := (Scrollback.logs_empty 9).extend [above]
  have hrows : wrapText text view.frame.width flags =
      [{ cells := #[.leader 'a' [] 1], softWrapped := true, flags },
        { cells := #[.leader '世' [] 2, .fragment 2], softWrapped := true, flags },
        { cells := #[.leader 'b' ['\u0301'] 1], flags }] := by decide +kernel
  have hkeeps : (wrapText text view.frame.width flags).length ≤ 9 := by
    rw [hrows]
    decide
  have htail : Chain.IsTail (s.appendText text view.frame.width flags).source 1
      (wrapText text view.frame.width flags) :=
    hlogs.isTail_appendText (by decide) hkeeps
  have habove : (s.appendText text view.frame.width flags).source.rowAt 0 = some above := by
    decide +kernel
  have hwhole : Chain.IsWhole (s.appendText text view.frame.width flags).source 0
      ([above] ++ wrapText text view.frame.width flags) := by
    rw [List.singleton_append]
    exact ⟨.more habove rfl htail, fun _ hfirst => nomatch hfirst⟩
  have hcall : view.frame.call? ([above] ++ wrapText text view.frame.width flags) =
      some ⟨['x', 'a', '世', 'b'], .auto .ltr⟩ := by decide +kernel
  have hanalysis : Classifier.unicode.analyze ['x', 'a', '世', 'b'] (.auto .ltr) =
      .ok (Classifier.analysis .ltr ['x', 'a', '世', 'b']) := by
    have htext : IsParagraph ['x', 'a', '世', 'b'] := ⟨by simp, by simp [isParagraphSeparator]⟩
    have hresolve : ParagraphBase.resolve (.auto .ltr) ['x', 'a', '世', 'b'] = .ltr := by
      decide +kernel
    rw [Classifier.analyze_unicode htext, hresolve]
  have hzero : view.frame.ResolvesToZero ([above] ++ wrapText text view.frame.width flags) :=
    { implicit := ⟨above, rfl, rfl⟩
      length_le := by
        rw [hrows]
        decide
      isAvailable := rfl
      levels := by
        intro call hsome
        obtain rfl := Option.some.inj (hcall.symm.trans hsome)
        exact ⟨_, hanalysis, by decide +kernel⟩ }
  have himplicit : ∀ row ∈ wrapText text view.frame.width flags, row.flags.implicit = true := by
    rw [hrows]
    decide
  have hreads : view.ReadsText s text flags :=
    { isReachable := ⟨{}, .unicode, _, rfl⟩
      width_pos := by decide
      plain := by simp [text, isControl]
      logs := ⟨_, hlogs⟩
      keeps := hkeeps
      reads := .implicit Classifier.reportsLevels_unicode himplicit hwhole rfl hzero
      begins := .inl (by decide) }
  obtain ⟨lines, hlines, -, -⟩ := visualText_of_wrapped hreads
  rw [hrows] at hlines
  obtain ⟨-, hline₁, hshown₁⟩ := hlines 1 _ rfl
  obtain ⟨-, hline₂, hshown₂⟩ := hlines 2 _ rfl
  exact ⟨hreads, (hshown₁ (by decide)).trans hline₁, (hshown₂ (by decide)).trans hline₂⟩

end Viewport

end BidiViewport
