import Mathlib.Algebra.GroupWithZero.Nat
import BidiViewport.Proofs.Layout.Units
import BidiViewport.Text.Blank

/-!
# Leaders of columns

Each column of a row is past its cells, a fragment without a leader, or belongs to the unit of
one leader (`Row.Covers`), and looking its leader up tells which
(`Row.covers_leaderColumn?`).

A character is printed at one of its columns and takes up all of them, unless it is a control
character.  `Row.countP_isPrinted` counts the columns that are taken up so.
-/

namespace BidiViewport

namespace Row

variable {content : Row} {width column first count : Nat}

/-- The first columns of the row, `width` at most, as a viewport shows them. -/
def shownCells (content : Row) (width : Nat) : List Cell :=
  content.cells.toList.take width

theorem length_shownCells (content : Row) (width : Nat) :
    (content.shownCells width).length = min content.size width := by
  rw [shownCells, List.length_take, Array.length_toList, Nat.min_comm]
  rfl

theorem getElem?_shownCells (h : column < width) :
    (content.shownCells width)[column]? = content.cell? column := by
  rw [shownCells, List.getElem?_take_of_lt h, Array.getElem?_toList]
  rfl

/-- What a column of the row belongs to, and the column of its leader. -/
inductive Covers (content : Row) (width column : Nat) : Option Nat → Prop
  | past (h : content.size ≤ column) : Covers content width column none
  | orphan (h : ∀ earlier ≤ column, Cell.fragmentAt (content.shownCells width) earlier = true) :
      Covers content width column none
  | led {first count : Nat} {base : Char} {marks : List Char} {columns : Nat}
      (hcell : content.cell? first = some (.leader base marks columns))
      (hunit : Cell.IsUnit (content.shownCells width) first count)
      (hin : first ≤ column ∧ column < first + count) : Covers content width column (some first)

theorem isFragment_of_fragmentAt (h : Cell.fragmentAt (content.shownCells width) column = true)
    (hlt : column < width) :
    ∃ cell, content.cell? column = some cell ∧ cell.isFragment = true := by
  unfold Cell.fragmentAt at h
  rw [getElem?_shownCells hlt] at h
  cases hcell : content.cell? column with
  | none =>
    rw [hcell] at h
    cases h
  | some cell =>
    rw [hcell] at h
    exact ⟨cell, rfl, h⟩

theorem leaderColumn?_of_past (h : content.size ≤ column) :
    content.leaderColumn? column = none := by
  have hcell : content.cell? column = none := Array.getElem?_eq_none h
  cases column with
  | zero => rw [leaderColumn?, hcell, Option.bind_none]
  | succ column => rw [leaderColumn?, hcell, Option.bind_none]

theorem leaderColumn?_of_fragment
    (h : Cell.fragmentAt (content.shownCells width) (column + 1) = true)
    (hlt : column + 1 < width) :
    content.leaderColumn? (column + 1) = content.leaderColumn? column := by
  obtain ⟨cell, hcell, hfragment⟩ := isFragment_of_fragmentAt h hlt
  rw [leaderColumn?, hcell, Option.bind_some, if_pos hfragment]

theorem leaderColumn?_of_orphan (hlt : column < width)
    (h : ∀ earlier ≤ column, Cell.fragmentAt (content.shownCells width) earlier = true) :
    content.leaderColumn? column = none := by
  induction column with
  | zero =>
    obtain ⟨cell, hcell, hfragment⟩ := isFragment_of_fragmentAt (h 0 (Nat.le_refl 0)) hlt
    rw [leaderColumn?, hcell, Option.bind_some, if_pos hfragment]
  | succ column ih =>
    rw [leaderColumn?_of_fragment (h _ (Nat.le_refl _)) hlt]
    exact ih (by omega) fun earlier hearlier => h earlier (by omega)

/-- The leader is found from each of the fragments behind it. -/
theorem leaderColumn?_of_led {base : Char} {marks : List Char} {columns : Nat}
    (hcell : content.cell? first = some (.leader base marks columns)) (hle : first ≤ column)
    (hlt : column < width) (h : ∀ later ≤ column, first < later →
      Cell.fragmentAt (content.shownCells width) later = true) :
    content.leaderColumn? column = some first := by
  induction column with
  | zero =>
    obtain rfl : first = 0 := Nat.le_zero.1 hle
    rw [leaderColumn?, hcell]
    rfl
  | succ column ih =>
    rcases Nat.eq_or_lt_of_le hle with rfl | hbelow
    · rw [leaderColumn?, hcell]
      rfl
    · rw [leaderColumn?_of_fragment (h _ (Nat.le_refl _) hbelow) hlt]
      exact ih (by omega) (by omega) fun later hlater => h later (by omega)

theorem leaderColumn?_of_isUnit {base : Char} {marks : List Char} {columns : Nat}
    (hcell : content.cell? first = some (.leader base marks columns))
    (hunit : Cell.IsUnit (content.shownCells width) first count)
    (hin : first ≤ column ∧ column < first + count) (hlt : column < width) :
    content.leaderColumn? column = some first :=
  leaderColumn?_of_led hcell hin.1 hlt fun _ hlater hbehind =>
    hunit.fragmentAt hbehind (Nat.lt_of_le_of_lt hlater hin.2)

/-- The leader of the columns of a unit is its first cell, unless that is a fragment. -/
theorem leaderColumn?_eq_of_isUnit (hunit : Cell.IsUnit (content.shownCells width) first count)
    (hle : first ≤ column) (hlt : column < first + count) : content.leaderColumn? column =
      if Cell.leaderAt (content.shownCells width) first then some first else none := by
  have hinside := hunit.lt_length hle hlt
  rw [length_shownCells] at hinside
  cases hunit with
  | led hleader hfragments hend =>
    obtain ⟨base, marks, columns, hcell⟩ := Cell.leaderAt_iff.1 hleader
    rw [getElem?_shownCells (by omega)] at hcell
    rw [if_pos hleader]
    exact leaderColumn?_of_isUnit hcell (.led hleader hfragments hend) ⟨hle, hlt⟩ (by omega)
  | orphan horphan =>
    obtain rfl : column = first := by omega
    have hfragment := horphan column (Nat.le_refl column)
    rw [leaderColumn?_of_orphan (by omega) horphan, if_neg]
    intro hleader
    rw [Cell.not_fragmentAt_of_leaderAt hleader] at hfragment
    cases hfragment

/-- What is looked up is a leader, and not behind the column. -/
theorem leader_of_leaderColumn? {leader : Nat} (h : content.leaderColumn? column = some leader) :
    leader ≤ column ∧
      ∃ base marks columns, content.cell? leader = some (.leader base marks columns) := by
  have hown {column : Nat} {cell : Cell} (hcell : content.cell? column = some cell)
      (hleader : ¬cell.isFragment = true) :
      ∃ base marks columns, content.cell? column = some (.leader base marks columns) := by
    cases cell with
    | leader base marks columns => exact ⟨base, marks, columns, hcell⟩
    | fragment columns => exact absurd rfl hleader
  induction column with
  | zero =>
    obtain ⟨cell, hcell, hfound⟩ := Option.bind_eq_some_iff.1 h
    split at hfound
    · cases hfound
    · next hleader =>
      obtain rfl := Option.some.inj hfound
      exact ⟨Nat.le_refl 0, hown hcell hleader⟩
  | succ column ih =>
    obtain ⟨cell, hcell, hfound⟩ := Option.bind_eq_some_iff.1 h
    split at hfound
    · obtain ⟨hle, hfar⟩ := ih hfound
      exact ⟨Nat.le_succ_of_le hle, hfar⟩
    · next hleader =>
      obtain rfl := Option.some.inj hfound
      exact ⟨Nat.le_refl _, hown hcell hleader⟩

/-- Whatever a column belongs to, its leader is looked up as such. -/
theorem covers_leaderColumn? (content : Row) (h : column < width) :
    content.Covers width column (content.leaderColumn? column) := by
  rcases Nat.lt_or_ge column content.size with hcell | hpast
  · have hlt : column < (content.shownCells width).length := by
      rw [length_shownCells]
      omega
    obtain ⟨first, count, hunit, hin⟩ := CellSpan.exists_isUnit hlt
    cases hunit with
    | led hleader hfragments hend =>
      obtain ⟨base, marks, columns, hfirst⟩ := Cell.leaderAt_iff.1 hleader
      rw [getElem?_shownCells (by omega)] at hfirst
      have hunit := Cell.IsUnit.led hleader hfragments hend
      rw [leaderColumn?_of_isUnit hfirst hunit hin h]
      exact .led hfirst hunit hin
    | orphan horphan =>
      obtain rfl : column = first := by omega
      rw [leaderColumn?_of_orphan h horphan]
      exact .orphan horphan
  · rw [leaderColumn?_of_past hpast]
    exact .past hpast

/-! ## Printed columns -/

/-- There is a leader at the column that is not a control character. -/
def printsAt (content : Row) (column : Nat) : Bool :=
  match content.cell? column with
  | some (.leader base _ _) => !isControl base
  | _ => false

/-- The column belongs to a leader that is not a control character. -/
def isPrinted (content : Row) (column : Nat) : Bool :=
  (content.leaderColumn? column).any content.printsAt

theorem printsAt_of_fragmentAt (h : Cell.fragmentAt (content.shownCells width) column = true)
    (hlt : column < width) : content.printsAt column = false := by
  obtain ⟨cell, hcell, hfragment⟩ := isFragment_of_fragmentAt h hlt
  unfold printsAt
  rw [hcell]
  cases cell with
  | leader base marks columns => cases hfragment
  | fragment columns => rfl

/-- The columns of a unit are printed or not as its first one is. -/
theorem isPrinted_of_isUnit (hunit : Cell.IsUnit (content.shownCells width) first count)
    (hin : first ≤ column ∧ column < first + count) :
    content.isPrinted column = content.printsAt first := by
  have hlt := hunit.lt_length hin.1 hin.2
  rw [length_shownCells] at hlt
  have hcovers : content.Covers width column (content.leaderColumn? column) :=
    covers_leaderColumn? content (by omega)
  unfold isPrinted
  cases hleader : content.leaderColumn? column with
  | none =>
    rw [hleader] at hcovers
    cases hcovers with
    | past hpast => omega
    | orphan horphan =>
      exact (printsAt_of_fragmentAt (horphan first hin.1) (by omega)).symm
  | some leader =>
    rw [hleader] at hcovers
    cases hcovers with
    | led hcell hunit' hin' =>
      obtain ⟨rfl, -⟩ := hunit.unique hunit' hin hin'
      rfl

theorem countP_unit (hunit : Cell.IsUnit (content.shownCells width) first count) :
    (List.range' first count).countP content.isPrinted =
      if content.printsAt first then count else 0 := by
  have hcolumn : ∀ column ∈ List.range' first count,
      content.isPrinted column = content.printsAt first :=
    fun column hcolumn => isPrinted_of_isUnit hunit (List.mem_range'_1.1 hcolumn)
  split
  · next hprinted =>
    rw [List.countP_eq_length.2 fun column h => (hcolumn column h).trans hprinted,
      List.length_range']
  · next hblank =>
    refine List.countP_eq_zero.2 ?_
    intro column h
    rw [hcolumn column h]
    exact hblank

theorem sum_filter (units : List (Nat × Nat)) (p : Nat → Bool) :
    (units.map fun unit => if p unit.1 then unit.2 else 0).sum =
      ((units.filter (p ·.1)).map Prod.snd).sum := by
  induction units with
  | nil => rfl
  | cons unit rest ih =>
    rw [List.map_cons, List.sum_cons, ih, List.filter_cons]
    split
    · rfl
    · exact Nat.zero_add _

/-- The printed columns are those of the units that are printed. -/
theorem countP_isPrinted (content : Row) (width : Nat) :
    (List.range width).countP content.isPrinted =
      (((Line.ofRow width content).units.filter (content.printsAt ·.1)).map Prod.snd).sum := by
  have hle := Line.used_ofRow_le width content
  have hpast : (List.range' (Line.ofRow width content).used
      (width - (Line.ofRow width content).used)).countP content.isPrinted = 0 := by
    refine List.countP_eq_zero.2 fun column hcolumn => ?_
    have hin := List.mem_range'_1.1 hcolumn
    have hmin : (Line.ofRow width content).used = min content.size width := rfl
    have hnone : content.leaderColumn? column = none := leaderColumn?_of_past (by omega)
    rw [isPrinted, hnone]
    exact Bool.false_ne_true
  have hextents := Line.flatMap_extent_ofRow width content
  rw [Line.range_eq_append hle, List.countP_append, hpast, Nat.add_zero, ← sum_filter, ← hextents,
    List.countP_flatMap, Line.units, List.map_map]
  congr 1
  refine List.map_congr_left fun span hspan => ?_
  exact countP_unit (CellSpan.mem_units_iff.1 (List.mem_map_of_mem hspan))

end Row

end BidiViewport
