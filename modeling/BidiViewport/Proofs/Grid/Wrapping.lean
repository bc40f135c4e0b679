import BidiViewport.Grid.Wrap

/-!
# Wrapped text

What the rows of a wrapped text hold.  `Wrap.Prints` says it of the rows alone: each of them is
made of whole clusters, one group of cells for each, none has more columns than the width, and
together they have the clusters of the text in order; all but the last one are soft-wrapped.
`prints_wrapText` is that wrapping a text prints its clusters.

`Wrap.Fills` follows the printing itself, cluster by cluster: what is true of the rows is read
off its constructors (`fills_wrapText`).
-/

namespace BidiViewport

/-! ## Cells of clusters -/

/-- The cells are groups, one for each cluster. -/
inductive Cell.Spells : List Cell → List (List Char) → Prop
  | nil : Spells [] []
  | cons {base : Char} {marks : List Char} {columns : Nat} {cells : List Cell}
      {clusters : List (List Char)} (hcolumns : 0 < columns) (hrest : Spells cells clusters) :
      Spells (group base marks columns ++ cells) ((base :: marks) :: clusters)

theorem Cell.Spells.append {cells cells' : List Cell} {clusters clusters' : List (List Char)}
    (h : Spells cells clusters) (h' : Spells cells' clusters') :
    Spells (cells ++ cells') (clusters ++ clusters') := by
  induction h with
  | nil => exact h'
  | cons hcolumns _ ih =>
    rw [List.append_assoc]
    exact .cons hcolumns ih

theorem Cell.spells_group (base : Char) (marks : List Char) {columns : Nat} (h : 0 < columns) :
    Spells (group base marks columns) [base :: marks] := by
  have hgroup : Spells (group base marks columns ++ []) [base :: marks] := .cons h .nil
  rwa [List.append_nil] at hgroup

theorem Cell.Spells.mem_of_leader {cells : List Cell} {clusters : List (List Char)}
    (h : Spells cells clusters) {base : Char} {marks : List Char} {columns : Nat}
    (hmem : leader base marks columns ∈ cells) : base :: marks ∈ clusters := by
  induction h with
  | nil => cases hmem
  | cons _ _ ih =>
    rcases List.mem_append.1 hmem with hgroup | hrest
    · rcases List.mem_cons.1 hgroup with hleader | hfragment
      · cases hleader
        exact List.mem_cons_self
      · cases List.eq_of_mem_replicate hfragment
    · exact List.mem_cons_of_mem _ (ih hrest)

namespace Row

/-- The row is made of the clusters and has at most `width` columns. -/
structure Holds (row : Row) (width : Nat) (flags : DirectionFlags) (part : List (List Char)) :
    Prop where
  spells : Cell.Spells row.cells.toList part
  size_le : row.size ≤ width
  flags : row.flags = flags

@[simp] theorem softWrapped_pushCluster (row : Row) (cluster : List Char) (columns : Nat) :
    (row.pushCluster cluster columns).softWrapped = row.softWrapped := by
  cases cluster <;> rfl

theorem toList_pushCluster (row : Row) (base : Char) (marks : List Char) (columns : Nat) :
    (row.pushCluster (base :: marks) columns).cells.toList =
      row.cells.toList ++ Cell.group base marks (max 1 (min columns Cell.maxColumns)) := by
  simp [Row.pushCluster]

theorem size_pushCluster_le {row : Row} {width columns : Nat} (cluster : List Char)
    (hpos : 0 < columns) (hfits : row.size + columns ≤ width) :
    (row.pushCluster cluster columns).size ≤ width := by
  cases cluster with
  | nil => exact Nat.le_trans (Nat.le_add_right _ columns) hfits
  | cons base marks =>
    unfold size at hfits ⊢
    rw [← Array.length_toList, toList_pushCluster, List.length_append,
      Cell.length_group (by omega), Array.length_toList]
    omega

theorem size_pushCluster_pos (row : Row) {cluster : List Char} (h : cluster ≠ [])
    (columns : Nat) : 0 < (row.pushCluster cluster columns).size := by
  obtain ⟨base, marks, rfl⟩ := List.exists_cons_of_ne_nil h
  unfold size
  rw [← Array.length_toList, toList_pushCluster, List.length_append, Cell.length_group (by omega)]
  omega

theorem Holds.fresh (width : Nat) (flags : DirectionFlags) : Holds { flags } width flags [] :=
  ⟨.nil, Nat.zero_le _, rfl⟩

theorem Holds.pushCluster {row : Row} {width columns : Nat} {flags : DirectionFlags}
    {part : List (List Char)} {cluster : List Char} (h : row.Holds width flags part)
    (hcluster : cluster ≠ []) (hpos : 0 < columns) (hfits : row.size + columns ≤ width) :
    (row.pushCluster cluster columns).Holds width flags (part ++ [cluster]) := by
  obtain ⟨base, marks, rfl⟩ := List.exists_cons_of_ne_nil hcluster
  refine ⟨?_, size_pushCluster_le _ hpos hfits, h.flags⟩
  rw [toList_pushCluster]
  exact h.spells.append (Cell.spells_group base marks (Nat.le_max_left 1 _))

end Row

namespace Wrap

/-! ## Printing one cluster -/

/-- Only a tab depends on the column that it is printed at. -/
theorem clusterColumns_eq {cluster : List Char} (h : cluster ≠ ['\t']) (column : Nat) :
    clusterColumns cluster column = clusterColumns cluster 0 ∧ clusterColumns cluster 0 ≤ 2 := by
  unfold clusterColumns
  rw [if_neg h, if_neg h]
  exact ⟨rfl, Nat.min_le_left _ _⟩

/-- The next row begins with this cluster: the row before is full, or it has one column left and
the cluster needs two. -/
def Turns (width : Nat) (row : Row) (cluster : List Char) : Prop :=
  row.size = width ∨ row.size + 1 = width ∧ 0 < row.size ∧ clusterColumns cluster 0 = 2

/-- A cluster is printed on the row if there is room, in as many columns as are left for it.
If there is none, it begins the next row. -/
theorem place_cases {width : Nat} {row : Row} (cluster : List Char) (hwidth : 0 < width)
    (hsize : row.size ≤ width) :
    (place width row cluster = (none, row.pushCluster cluster
        (min (clusterColumns cluster row.size) (width - row.size))) ∧ row.size < width) ∨
      (place width row cluster = (some row, ({ flags := row.flags } : Row).pushCluster cluster
        (min (clusterColumns cluster 0) width)) ∧ Turns width row cluster) := by
  have hpos := clusterColumns_pos cluster 0
  unfold place
  dsimp only
  by_cases hfull : row.size = width
  · have hfresh : ({ flags := row.flags } : Row).size = 0 := rfl
    refine .inr ⟨?_, .inl hfull⟩
    rw [if_pos hfull]
    dsimp only
    rw [hfresh, Nat.zero_add, Nat.sub_zero]
    split
    · rfl
    · next htab =>
      have htwo := (clusterColumns_eq htab 0).2
      split
      · next hfits => rw [Nat.min_eq_left hfits]
      · next hwide => rw [if_pos (by omega), Nat.min_eq_right (by omega)]
  · have hroom : row.size < width := by omega
    rw [if_neg hfull]
    dsimp only
    split
    · exact .inl ⟨rfl, hroom⟩
    · next htab =>
      obtain ⟨hcolumns, htwo⟩ := clusterColumns_eq htab row.size
      rw [hcolumns]
      split
      · next hfits =>
        rw [Nat.min_eq_left (by omega)]
        exact .inl ⟨rfl, hroom⟩
      · split
        · -- Two columns at a width of one: the row is empty.
          rw [show width - row.size = width by omega, Nat.min_eq_right (by omega)]
          exact .inl ⟨rfl, hroom⟩
        · rw [Nat.min_eq_left (show clusterColumns cluster 0 ≤ width by omega)]
          exact .inr ⟨rfl, .inr ⟨by omega, by omega, by omega⟩⟩

/-- How clusters are printed from a row on, and the rows that they make. -/
inductive Fills (width : Nat) : Row → List (List Char) → List Row → Prop
  | last (row : Row) : Fills width row [] [row]
  | push {row : Row} {cluster : List Char} {rest : List (List Char)} {rows : List Row}
      (hroom : row.size < width)
      (hrest : Fills width (row.pushCluster cluster
        (min (clusterColumns cluster row.size) (width - row.size))) rest rows) :
      Fills width row (cluster :: rest) rows
  | turn {row : Row} {cluster : List Char} {rest : List (List Char)} {rows : List Row}
      (hturns : Turns width row cluster)
      (hrest : Fills width (({ flags := row.flags } : Row).pushCluster cluster
        (min (clusterColumns cluster 0) width)) rest rows) :
      Fills width row (cluster :: rest) (row.wrapped true :: rows)

theorem fills_rowsFrom {width : Nat} {row : Row} (hwidth : 0 < width) (hsize : row.size ≤ width)
    (clusters : List (List Char)) : Fills width row clusters (rowsFrom width row clusters) := by
  induction clusters generalizing row with
  | nil => exact .last row
  | cons cluster rest ih =>
    have hpos := clusterColumns_pos cluster
    unfold rowsFrom
    rcases place_cases cluster hwidth hsize with ⟨hplace, hroom⟩ | ⟨hplace, hturns⟩
    · have := hpos row.size
      rw [hplace]
      exact .push hroom (ih (Row.size_pushCluster_le cluster (by omega) (by omega)))
    · have := hpos 0
      have hempty : ({ flags := row.flags } : Row).size = 0 := rfl
      rw [hplace]
      exact .turn hturns (ih (Row.size_pushCluster_le cluster (by omega) (by omega)))

/-! ## Rows of a text -/

/-- The rows print the clusters: each holds some of them, and all but the last one are
soft-wrapped. -/
inductive Prints (width : Nat) (flags : DirectionFlags) : List Row → List (List Char) → Prop
  | last {row : Row} {part : List (List Char)} (hrow : row.Holds width flags part)
      (hend : row.softWrapped = false) : Prints width flags [row] part
  | more {row : Row} {part : List (List Char)} {rows : List Row} {clusters : List (List Char)}
      (hrow : row.Holds width flags part) (hwrapped : row.softWrapped = true)
      (hrest : Prints width flags rows clusters) :
      Prints width flags (row :: rows) (part ++ clusters)

theorem Fills.prints {width : Nat} {flags : DirectionFlags} {row : Row}
    {part clusters : List (List Char)} {rows : List Row} (h : Fills width row clusters rows)
    (hwidth : 0 < width) (hrow : row.Holds width flags part) (hend : row.softWrapped = false)
    (hclusters : ∀ cluster ∈ clusters, cluster ≠ []) :
    Prints width flags rows (part ++ clusters) := by
  induction h generalizing part with
  | last row =>
    rw [List.append_nil]
    exact .last hrow hend
  | @push row cluster rest rows hroom _ ih =>
    obtain ⟨hcluster, hrest⟩ := List.forall_mem_cons.1 hclusters
    have := clusterColumns_pos cluster row.size
    rw [List.append_cons]
    exact ih (hrow.pushCluster hcluster (by omega) (by omega)) (by simpa using hend) hrest
  | @turn row cluster rest rows _ _ ih =>
    obtain ⟨hcluster, hrest⟩ := List.forall_mem_cons.1 hclusters
    have := clusterColumns_pos cluster 0
    have hempty : ({ flags := row.flags } : Row).size = 0 := rfl
    rw [hrow.flags] at hempty ih
    have hfresh : (({ flags } : Row).pushCluster cluster
        (min (clusterColumns cluster 0) width)).Holds width flags [cluster] :=
      (Row.Holds.fresh width flags).pushCluster hcluster (by omega) (by omega)
    exact .more ⟨hrow.spells, hrow.size_le, hrow.flags⟩ rfl (ih hfresh (by simp) hrest)

/-- A row holds some of the clusters. -/
theorem Prints.exists_part {width : Nat} {flags : DirectionFlags} {rows : List Row}
    {clusters : List (List Char)} (h : Prints width flags rows clusters) {row : Row}
    (hrow : row ∈ rows) :
    ∃ part, row.Holds width flags part ∧ ∀ cluster ∈ part, cluster ∈ clusters := by
  induction h with
  | last hholds _ =>
    obtain rfl := List.mem_singleton.1 hrow
    exact ⟨_, hholds, fun _ => id⟩
  | more hholds _ _ ih =>
    rcases List.mem_cons.1 hrow with rfl | hlater
    · exact ⟨_, hholds, fun _ => List.mem_append_left _⟩
    · obtain ⟨part, hpart, hsub⟩ := ih hlater
      exact ⟨part, hpart, fun cluster hcluster => List.mem_append_right _ (hsub cluster hcluster)⟩

end Wrap

/-- The clusters of a line of text that are printed.  The line breaks at its end are not. -/
def printedClusters (text : List Char) : List (List Char) :=
  clusters (dropEndWhile (fun c => c = '\n' || c = '\r') text)

theorem fills_wrapText {width : Nat} (hwidth : 0 < width) (text : List Char)
    (flags : DirectionFlags) :
    Wrap.Fills width { flags } (printedClusters text) (wrapText text width flags) := by
  unfold wrapText
  rw [Nat.max_eq_right hwidth]
  exact Wrap.fills_rowsFrom hwidth (Row.Holds.fresh width flags).size_le _

/-- Wrapping a text prints its clusters, whatever the width. -/
theorem prints_wrapText {width : Nat} (hwidth : 0 < width) (text : List Char)
    (flags : DirectionFlags) :
    Wrap.Prints width flags (wrapText text width flags) (printedClusters text) :=
  (fills_wrapText hwidth text flags).prints hwidth (.fresh width flags) rfl
    fun _ => ne_nil_of_mem_clusters

end BidiViewport
