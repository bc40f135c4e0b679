import Mathlib.Data.List.Chain
import BidiViewport.Proofs.Grid.Wrapping
import BidiViewport.Proofs.Text.Controls

/-!
# Margins of wrapped text

Where the rows of a wrapped text end, and how wide its clusters are printed.  A cluster has its
own columns unless the right margin cuts them off (`Row.FitsClusters`), and a row that another
one follows is full, or one column short of it (`Wrap.TurnsInto`).  Both are read off the way in
which the rows are filled (`Wrap.Fills`); `wrapText_fills_rows` puts them together with what the
rows hold.
-/

namespace BidiViewport

/-! ## The clusters of a row -/

namespace Cell

/-- The cluster that a cell is the leader of. -/
def cluster? : Cell → Option (List Char)
  | leader base marks _ => some (base :: marks)
  | fragment _ => none

theorem filterMap_cluster?_group (base : Char) (marks : List Char) (columns : Nat) :
    (group base marks columns).filterMap cluster? = [base :: marks] := by
  have hfragments : (List.replicate (columns - 1) (fragment columns)).filterMap cluster? = [] := by
    simp [List.filterMap_eq_nil_iff, cluster?]
  rw [group, List.filterMap_cons, hfragments]
  rfl

theorem Spells.filterMap_cluster? {cells : List Cell} {clusters : List (List Char)}
    (h : Spells cells clusters) : cells.filterMap cluster? = clusters := by
  induction h with
  | nil => rfl
  | cons _ _ ih => rw [List.filterMap_append, filterMap_cluster?_group, ih, List.singleton_append]

/-- A group begins with its leader and has no other one. -/
theorem eq_of_getElem?_group {base base' : Char} {marks marks' : List Char}
    {columns columns' i : Nat}
    (h : (group base marks columns)[i]? = some (leader base' marks' columns')) :
    i = 0 ∧ leader base marks columns = leader base' marks' columns' := by
  cases i with
  | zero => exact ⟨rfl, Option.some.inj h⟩
  | succ i =>
    rw [group, List.getElem?_cons_succ] at h
    cases List.eq_of_mem_replicate (List.mem_of_getElem? h)

end Cell

namespace Row

/-- The clusters of the leaders, in their order. -/
def leaderClusters (row : Row) : List (List Char) :=
  row.cells.toList.filterMap Cell.cluster?

theorem Holds.leaderClusters {row : Row} {width : Nat} {flags : DirectionFlags}
    {part : List (List Char)} (h : row.Holds width flags part) : row.leaderClusters = part :=
  h.spells.filterMap_cluster?

theorem mem_leaderClusters {row : Row} {column columns : Nat} {base : Char} {marks : List Char}
    (h : row.cell? column = some (.leader base marks columns)) :
    base :: marks ∈ row.leaderClusters := by
  refine List.mem_filterMap.2 ⟨.leader base marks columns, ?_, rfl⟩
  exact Array.mem_toList_iff.2 (Array.mem_of_getElem? h)

theorem cell?_pushCluster (row : Row) (base : Char) (marks : List Char) (columns column : Nat) :
    (row.pushCluster (base :: marks) columns).cell? column =
      if column < row.size then row.cell? column
      else (Cell.group base marks (max 1 (min columns Cell.maxColumns)))[column - row.size]? := by
  unfold cell? size
  rw [← Array.getElem?_toList, toList_pushCluster, List.getElem?_append, Array.length_toList,
    Array.getElem?_toList]

/-- Each leader has the columns of its cluster, as far as there are any before the margin. -/
def FitsClusters (row : Row) (width : Nat) : Prop :=
  ∀ column base marks columns, row.cell? column = some (.leader base marks columns) →
    columns = min (clusterColumns (base :: marks) column) (width - column)

theorem FitsClusters.fresh (width : Nat) (flags : DirectionFlags) :
    FitsClusters { flags } width := by
  intro column base marks columns h
  cases h

theorem FitsClusters.pushCluster {row : Row} {width : Nat} (h : row.FitsClusters width)
    (hroom : row.size < width) (cluster : List Char) :
    (row.pushCluster cluster
      (min (clusterColumns cluster row.size) (width - row.size))).FitsClusters width := by
  cases cluster with
  | nil => exact h
  | cons base marks =>
    intro column base' marks' columns hcell
    rw [cell?_pushCluster] at hcell
    split at hcell
    · exact h column base' marks' columns hcell
    · next hbehind =>
      obtain ⟨hfirst, hleader⟩ := Cell.eq_of_getElem?_group hcell
      obtain ⟨rfl, rfl, rfl⟩ := Cell.leader.inj hleader
      obtain rfl : column = row.size := by omega
      have hpos := clusterColumns_pos (base :: marks) row.size
      have hle := clusterColumns_le_tabWidth (base :: marks) row.size
      unfold tabWidth at hle
      unfold Cell.maxColumns
      omega

end Row

/-! ## Filling rows -/

namespace Wrap

/-- A row that another one follows is full, or has one column left and the next row begins with
a cluster of two. -/
def TurnsInto (width : Nat) (row next : Row) : Prop :=
  row.size = width ∨ row.size + 1 = width ∧ ∃ base marks,
    next.cell? 0 = some (.leader base marks 2) ∧ clusterColumns (base :: marks) 0 = 2

section Fills

variable {width : Nat} {row : Row} {clusters : List (List Char)} {rows : List Row}

theorem Fills.fitsClusters (h : Fills width row clusters rows) (hwidth : 0 < width)
    (hrow : row.FitsClusters width) : ∀ filled ∈ rows, filled.FitsClusters width := by
  induction h with
  | last row =>
    intro filled hfilled
    obtain rfl := List.mem_singleton.1 hfilled
    exact hrow
  | push hroom _ ih => exact ih (hrow.pushCluster hroom _)
  | @turn row cluster _ _ _ _ ih =>
    refine List.forall_mem_cons.2 ⟨hrow, ih ?_⟩
    exact (Row.FitsClusters.fresh width row.flags).pushCluster hwidth cluster

/-- No row is empty, unless there is nothing to print. -/
theorem Fills.size_pos (h : Fills width row clusters rows) (hwidth : 0 < width)
    (hclusters : ∀ cluster ∈ clusters, cluster ≠ [])
    (hsome : 0 < row.size ∨ clusters ≠ []) : ∀ filled ∈ rows, 0 < filled.size := by
  induction h with
  | last row =>
    intro filled hfilled
    obtain rfl := List.mem_singleton.1 hfilled
    exact hsome.resolve_right fun hne => hne rfl
  | push _ _ ih =>
    obtain ⟨hcluster, hrest⟩ := List.forall_mem_cons.1 hclusters
    exact ih hrest (.inl (Row.size_pushCluster_pos _ hcluster _))
  | @turn row cluster _ _ hturns _ ih =>
    obtain ⟨hcluster, hrest⟩ := List.forall_mem_cons.1 hclusters
    refine List.forall_mem_cons.2
      ⟨?_, ih hrest (.inl (Row.size_pushCluster_pos _ hcluster _))⟩
    rcases hturns with hfull | ⟨-, hpos, -⟩
    · exact Nat.lt_of_lt_of_eq hwidth hfull.symm
    · exact hpos

/-- The first row begins with what was there before. -/
theorem Fills.isChain (h : Fills width row clusters rows)
    (hclusters : ∀ cluster ∈ clusters, cluster ≠ []) :
    rows.IsChain (TurnsInto width) ∧ ∃ first later, rows = first :: later ∧
      ∀ cell, row.cell? 0 = some cell → first.cell? 0 = some cell := by
  induction h with
  | last row => exact ⟨.singleton row, row, [], rfl, fun _ => id⟩
  | @push row cluster _ _ _ _ ih =>
    obtain ⟨hcluster, hrest⟩ := List.forall_mem_cons.1 hclusters
    obtain ⟨hchain, first, later, rfl, hfirst⟩ := ih hrest
    refine ⟨hchain, first, later, rfl, fun cell hcell => hfirst cell ?_⟩
    obtain ⟨base, marks, rfl⟩ := List.exists_cons_of_ne_nil hcluster
    have hpos : 0 < row.size := (Array.getElem?_eq_some_iff.1 hcell).1
    rw [Row.cell?_pushCluster, if_pos hpos, hcell]
  | @turn row cluster _ _ hturns _ ih =>
    obtain ⟨hcluster, hrest⟩ := List.forall_mem_cons.1 hclusters
    obtain ⟨hchain, first, later, rfl, hfirst⟩ := ih hrest
    refine ⟨.cons_cons ?_ hchain, row.wrapped true, _, rfl, fun _ => id⟩
    rcases hturns with hfull | ⟨hshort, hpos, htwo⟩
    · exact .inl hfull
    · obtain ⟨base, marks, rfl⟩ := List.exists_cons_of_ne_nil hcluster
      refine .inr ⟨hshort, base, marks, hfirst _ ?_, htwo⟩
      have hwide : min 2 width = 2 := by omega
      rw [Row.cell?_pushCluster, htwo, hwide]
      rfl

end Fills

theorem Prints.flatMap_leaderClusters {width : Nat} {flags : DirectionFlags} {rows : List Row}
    {clusters : List (List Char)} (h : Prints width flags rows clusters) :
    rows.flatMap Row.leaderClusters = clusters := by
  induction h with
  | last hrow _ => rw [List.flatMap_singleton, hrow.leaderClusters]
  | more hrow _ _ ih => rw [List.flatMap_cons, hrow.leaderClusters, ih]

/-- All rows but the last one are soft-wrapped. -/
theorem Prints.exists_last {width : Nat} {flags : DirectionFlags} {rows : List Row}
    {clusters : List (List Char)} (h : Prints width flags rows clusters) :
    ∃ earlier last, rows = earlier ++ [last] ∧ (∀ row ∈ earlier, row.softWrapped = true) ∧
      last.softWrapped = false := by
  induction h with
  | @last row _ _ hend => exact ⟨[], row, rfl, List.forall_mem_nil _, hend⟩
  | @more row _ _ _ _ hwrapped _ ih =>
    obtain ⟨earlier, last, rfl, hearlier, hend⟩ := ih
    exact ⟨row :: earlier, last, rfl, List.forall_mem_cons.2 ⟨hwrapped, hearlier⟩, hend⟩

end Wrap

/-! ## Tabs -/

/-- A tab has no marks. -/
theorem StandsAlone.eq_nil_of_tab {marks : List Char} (h : StandsAlone ('\t' :: marks)) :
    marks = [] := by
  rcases h with hplain | ⟨c, hsingle⟩ | hbreak
  · have htab := hplain '\t' List.mem_cons_self
    cases htab
  · exact (List.cons.inj hsingle).2
  · cases hbreak

/-- A tab ends at a tab stop or at the margin. -/
theorem Row.FitsClusters.tab_end {row : Row} {width column columns : Nat}
    (h : row.FitsClusters width) (hsize : row.size ≤ width)
    (htab : row.cell? column = some (.leader '\t' [] columns)) :
    tabWidth ∣ column + columns ∨ column + columns = width := by
  have hlt : column < row.size := (Array.getElem?_eq_some_iff.1 htab).1
  have hcolumns := h column '\t' [] columns htab
  rw [clusterColumns, if_pos rfl] at hcolumns
  unfold tabWidth at hcolumns ⊢
  omega

/-! ## Wrapped text -/

/-- A row without cells is the only one of a text without characters. -/
theorem eq_singleton_of_size_eq_zero {width : Nat} (hwidth : 0 < width) {text : List Char}
    {flags : DirectionFlags} {row : Row} (hrow : row ∈ wrapText text width flags)
    (hempty : row.size = 0) : wrapText text width flags = [row] ∧ printedClusters text = [] := by
  have hfills := fills_wrapText hwidth text flags
  by_cases hnone : printedClusters text = []
  · rw [hnone] at hfills
    generalize wrapText text width flags = rows at hfills hrow
    cases hfills
    obtain rfl := List.mem_singleton.1 hrow
    exact ⟨rfl, hnone⟩
  · have hpos := hfills.size_pos hwidth (fun _ => ne_nil_of_mem_clusters) (.inr hnone) row hrow
    omega

/-- Wrapping a text keeps its clusters and their order, and fills rows with them from left to
right.  Each row is made of whole groups of cells, as wide as their clusters unless the margin
cuts them off; in particular a tab ends at a tab stop or at the margin.  A row that is not the
last one is soft-wrapped, and has no room for the cluster that the next row begins with. -/
theorem wrapText_fills_rows (text : List Char) (width : Nat) (flags : DirectionFlags) :
    let rows := wrapText text width flags
    let margin := max 1 width
    rows.flatMap Row.leaderClusters = printedClusters text ∧
      (∀ row ∈ rows, row.flags = flags ∧ row.size ≤ margin ∧
        Cell.Spells row.cells.toList row.leaderClusters ∧ row.FitsClusters margin ∧
        ∀ column marks columns, row.cell? column = some (.leader '\t' marks columns) →
          tabWidth ∣ column + columns ∨ column + columns = margin) ∧
      (∃ earlier last, rows = earlier ++ [last] ∧ (∀ row ∈ earlier, row.softWrapped = true) ∧
        last.softWrapped = false) ∧
      (∀ row ∈ rows, row.size = 0 →
        rows = [row] ∧ dropEndWhile (fun c => c = '\n' || c = '\r') text = []) ∧
      rows.IsChain (Wrap.TurnsInto margin) := by
  intro rows margin
  have hmargin : 0 < margin := Nat.lt_of_lt_of_le Nat.zero_lt_one (Nat.le_max_left 1 width)
  have hrows : rows = wrapText text margin flags := by
    unfold rows margin wrapText
    rw [show max 1 (max 1 width) = max 1 width by omega]
  clear_value rows
  subst hrows
  have hprints := prints_wrapText hmargin text flags
  have hfills := fills_wrapText hmargin text flags
  have hkept := hprints.flatMap_leaderClusters
  refine ⟨hkept, ?_, hprints.exists_last, ?_, ?_⟩
  · intro row hrow
    obtain ⟨part, hholds, -⟩ := hprints.exists_part hrow
    have hfits := hfills.fitsClusters hmargin (.fresh margin flags) row hrow
    refine ⟨hholds.flags, hholds.size_le, ?_, hfits, ?_⟩
    · rw [hholds.leaderClusters]
      exact hholds.spells
    · intro column marks columns htab
      have hcluster : '\t' :: marks ∈ printedClusters text := by
        rw [← hkept]
        exact List.mem_flatMap_of_mem hrow (Row.mem_leaderClusters htab)
      obtain rfl := (standsAlone_of_mem_clusters hcluster).eq_nil_of_tab
      exact hfits.tab_end hholds.size_le htab
  · intro row hrow hempty
    obtain ⟨honly, hnone⟩ := eq_singleton_of_size_eq_zero hmargin hrow hempty
    refine ⟨honly, ?_⟩
    rw [← flatten_clusters (dropEndWhile _ text)]
    exact congrArg List.flatten hnone
  · exact (hfills.isChain fun _ => ne_nil_of_mem_clusters).1

end BidiViewport
