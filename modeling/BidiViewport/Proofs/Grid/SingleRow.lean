import Mathlib.Data.List.DropRight
import BidiViewport.Proofs.Grid.Wrapping

/-!
# Texts on one row

`Row.ofText` puts a whole text on one row; `wrapText` breaks it at the right margin.  Both push
the same clusters, and as long as the margin is not reached they push them in the same columns:
a text that has room is wrapped to the row that it makes by itself (`Wrap.Fills.eq_singleton`).
If it has none, wrapping either opens a second row or cuts off the last cluster
(`Wrap.Fills.overflows`); both are inductions on the way in which the rows are filled.
-/

namespace BidiViewport

/-- No end of the text is dropped if its last character is not. -/
theorem dropEndWhile_eq_self {p : Char → Bool} {text : List Char}
    (h : ∀ c, text.getLast? = some c → p c = false) : dropEndWhile p text = text := by
  refine List.rdropWhile_eq_self_iff.2 fun hne => ?_
  simp [h _ (List.getLast?_eq_some_getLast hne)]

/-- All clusters of a text that does not end in a line break are printed. -/
theorem printedClusters_eq_clusters {text : List Char}
    (hend : ∀ c, text.getLast? = some c → c ≠ '\n' ∧ c ≠ '\r') :
    printedClusters text = clusters text := by
  unfold printedClusters
  rw [dropEndWhile_eq_self fun c hc => by simpa using hend c hc]

namespace Row

theorem size_pushCluster (row : Row) {cluster : List Char} {columns : Nat} (h : cluster ≠ [])
    (hpos : 0 < columns) (hle : columns ≤ tabWidth) :
    (row.pushCluster cluster columns).size = row.size + columns := by
  obtain ⟨base, marks, rfl⟩ := List.exists_cons_of_ne_nil h
  unfold tabWidth at hle
  unfold size
  rw [← Array.length_toList, toList_pushCluster, List.length_append, Cell.length_group (by omega),
    Array.length_toList]
  unfold Cell.maxColumns
  omega

theorem size_pushNatural (row : Row) {cluster : List Char} (h : cluster ≠ []) :
    (row.pushNatural cluster).size = row.size + clusterColumns cluster row.size :=
  row.size_pushCluster h (clusterColumns_pos cluster row.size)
    (clusterColumns_le_tabWidth cluster row.size)

theorem size_le_size_foldl_pushNatural {clusters : List (List Char)}
    (h : ∀ cluster ∈ clusters, cluster ≠ []) (row : Row) :
    row.size ≤ (clusters.foldl pushNatural row).size := by
  induction clusters generalizing row with
  | nil => simp
  | cons cluster rest ih =>
    obtain ⟨hcluster, hrest⟩ := List.forall_mem_cons.1 h
    have hlater := ih hrest (row.pushNatural cluster)
    rw [size_pushNatural row hcluster] at hlater
    rw [List.foldl_cons]
    omega

/-- The right margin is inside the columns of the cluster that comes next on the row. -/
structure CutsOff (width : Nat) (row : Row) (cluster : List Char) : Prop where
  size_lt : row.size < width
  lt_end : width < row.size + clusterColumns cluster row.size

end Row

namespace Wrap

section Fills

variable {width : Nat} {row : Row} {clusters : List (List Char)} {rows : List Row}

theorem Fills.ne_nil (h : Fills width row clusters rows) : rows ≠ [] := by
  induction h with
  | last row => simp
  | push _ _ ih => exact ih
  | turn _ _ _ => simp

/-- What comes after a full row is on another one. -/
theorem Fills.two_le_length (h : Fills width row clusters rows) (hfull : width ≤ row.size)
    (hclusters : clusters ≠ []) : 2 ≤ rows.length := by
  cases h with
  | last => exact absurd rfl hclusters
  | push hroom _ => omega
  | turn _ hrest =>
    have hsome := List.length_pos_of_ne_nil hrest.ne_nil
    rw [List.length_cons]
    omega

/-- A cluster that begins the next row has no room on the one before. -/
theorem Turns.lt_end {cluster : List Char} (h : Turns width row cluster) :
    width < row.size + clusterColumns cluster row.size := by
  have hpos := clusterColumns_pos cluster row.size
  rcases h with hfull | ⟨hshort, -, htwo⟩
  · omega
  · by_cases htab : cluster = ['\t']
    · subst htab
      cases htwo
    · have hnatural := (clusterColumns_eq htab row.size).1
      omega

/-- Clusters that have room on a row are pushed to it as they are. -/
theorem Fills.eq_singleton (h : Fills width row clusters rows)
    (hclusters : ∀ cluster ∈ clusters, cluster ≠ [])
    (hfits : (clusters.foldl Row.pushNatural row).size ≤ width) :
    rows = [clusters.foldl Row.pushNatural row] := by
  induction h with
  | last row => rfl
  | @push row cluster rest rows hroom _ ih =>
    obtain ⟨hcluster, hrest⟩ := List.forall_mem_cons.1 hclusters
    rw [List.foldl_cons] at hfits ⊢
    have hlater := Row.size_le_size_foldl_pushNatural hrest (row.pushNatural cluster)
    rw [Row.size_pushNatural row hcluster] at hlater
    rw [Nat.min_eq_left (by omega)] at ih
    exact ih hrest hfits
  | @turn row cluster rest rows hturns _ _ =>
    obtain ⟨hcluster, hrest⟩ := List.forall_mem_cons.1 hclusters
    rw [List.foldl_cons] at hfits
    have hlater := Row.size_le_size_foldl_pushNatural hrest (row.pushNatural cluster)
    rw [Row.size_pushNatural row hcluster] at hlater
    have hover := hturns.lt_end
    omega

/-- Clusters that have no room make two rows, or the margin cuts off the last one of them. -/
theorem Fills.overflows (h : Fills width row clusters rows) (hsize : row.size ≤ width)
    (hclusters : ∀ cluster ∈ clusters, cluster ≠ [])
    (hover : width < (clusters.foldl Row.pushNatural row).size) :
    2 ≤ rows.length ∨ ∃ front last, clusters = front ++ [last] ∧
      (front.foldl Row.pushNatural row).CutsOff width last ∧
      rows = [(front.foldl Row.pushNatural row).pushCluster last
        (width - (front.foldl Row.pushNatural row).size)] := by
  induction h with
  | last row => exact absurd hover (Nat.not_lt.2 hsize)
  | @push row cluster rest rows hroom hfills ih =>
    obtain ⟨hcluster, hrest⟩ := List.forall_mem_cons.1 hclusters
    have hpos := clusterColumns_pos cluster row.size
    have hle := clusterColumns_le_tabWidth cluster row.size
    by_cases hfits : row.size + clusterColumns cluster row.size ≤ width
    · rw [Nat.min_eq_left (by omega)] at ih
      have hnext : (row.pushNatural cluster).size ≤ width := by
        rw [Row.size_pushNatural row hcluster]
        exact hfits
      rcases ih hnext hrest hover with hmany | ⟨front, last, rfl, hcut, hrows⟩
      · exact .inl hmany
      · exact .inr ⟨cluster :: front, last, rfl, hcut, hrows⟩
    · rw [Nat.min_eq_right (by omega)] at hfills
      by_cases hlast : rest = []
      · subst hlast
        cases hfills
        exact .inr ⟨[], cluster, rfl, ⟨hroom, by simpa using hfits⟩, rfl⟩
      · -- The cluster ends at the margin, so whatever follows it is on the next row.
        refine .inl (hfills.two_le_length ?_ hlast)
        rw [Row.size_pushCluster row hcluster (by omega) (by omega)]
        omega
  | turn _ hfills _ =>
    have hsome := List.length_pos_of_ne_nil hfills.ne_nil
    refine .inl ?_
    rw [List.length_cons]
    omega

end Fills

end Wrap

/-- A text that does not end in a line break is wrapped to the row that it makes by itself if
this row has no more cells than the width.  If it has more, wrapping makes two rows at least, or
one row that has all clusters before the last one as they are, and as many columns of the last
one as there are up to the margin. -/
theorem wrapText_eq_ofText (text : List Char) (width : Nat) (flags : DirectionFlags)
    (hwidth : 0 < width) (hend : ∀ c, text.getLast? = some c → c ≠ '\n' ∧ c ≠ '\r') :
    let row := Row.ofText text flags
    let rows := wrapText text width flags
    (row.size ≤ width → rows = [row]) ∧
      (width < row.size → 2 ≤ rows.length ∨
        ∃ front last, clusters text = front ++ [last] ∧
          let before := front.foldl Row.pushNatural { flags }
          before.CutsOff width last ∧ row = before.pushNatural last ∧
            rows = [before.pushCluster last (width - before.size)]) := by
  intro row rows
  have hfills := fills_wrapText hwidth text flags
  rw [printedClusters_eq_clusters hend] at hfills
  have hclusters : ∀ cluster ∈ clusters text, cluster ≠ [] := fun _ => ne_nil_of_mem_clusters
  refine ⟨hfills.eq_singleton hclusters, fun hover => ?_⟩
  rcases hfills.overflows (Nat.zero_le width) hclusters hover with
    hmany | ⟨front, last, hsplit, hcut, hrows⟩
  · exact .inl hmany
  · refine .inr ⟨front, last, hsplit, hcut, ?_, hrows⟩
    unfold row Row.ofText
    rw [hsplit, List.foldl_append, List.foldl_cons, List.foldl_nil]

/-- A tab and a wide character that end at the margin, and a tab that it cuts off. -/
theorem wrapText_eq_ofText_of_tab :
    wrapText ['a', '\t', '世'] 10 {} = [Row.ofText ['a', '\t', '世'] {}] ∧
      (2 ≤ (wrapText ['a', 'b', '\t'] 5 {}).length ∨
        ∃ front last, clusters ['a', 'b', '\t'] = front ++ [last] ∧
          let before := front.foldl Row.pushNatural {}
          before.CutsOff 5 last ∧ Row.ofText ['a', 'b', '\t'] {} = before.pushNatural last ∧
            wrapText ['a', 'b', '\t'] 5 {} = [before.pushCluster last (5 - before.size)]) := by
  refine ⟨(wrapText_eq_ofText ['a', '\t', '世'] 10 {} (by decide) ?_).1 (by decide +kernel),
    (wrapText_eq_ofText ['a', 'b', '\t'] 5 {} (by decide) ?_).2 (by decide +kernel)⟩
  · simp
  · simp

example : wrapText ['a', 'b', '\t'] 5 {} = [((Row.ofText ['a', 'b'] {}).pushCluster ['\t'] 3)] := by
  decide +kernel

end BidiViewport
