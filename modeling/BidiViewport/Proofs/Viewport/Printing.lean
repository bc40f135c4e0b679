import Mathlib.Data.List.Nodup
import BidiViewport.Layout.VisualText
import BidiViewport.Proofs.Layout.Leaders
import BidiViewport.Proofs.Viewport.Bijection

/-!
# The text of a row

A row is printed column by column, with a list of the leaders that have been printed.  The text
is a concatenation of pieces, one for each visual column, and each piece is determined by its
column alone, without that list (`RowMap.Prints`).

* `RowMap.exists_pieces`: the text is made of such pieces.
* `RowMap.perm_leaders`: every character is in one piece.
* `RowMap.countP_blank_add`: no column is lost, and none is counted twice.
-/

namespace BidiViewport

/-- What a visual column adds to the text of its row. -/
inductive Piece
  | blank
  /-- The glyph and the marks of the leader at a column. -/
  | printed (leader : Nat) (glyph : Char) (marks : List Char)
  /-- The character of the column has been printed on the left. -/
  | nothing
deriving DecidableEq

namespace Piece

def text : Piece → List Char
  | blank => [' ']
  | printed _ glyph marks => glyph :: marks
  | nothing => []

def leader? : Piece → Option Nat
  | printed leader _ _ => some leader
  | _ => none

end Piece

namespace RowMap

/-- The glyph of a character `base` whose leader is at the column `leader`: its joined form, or
its mirror image in a right-to-left cell, or itself. -/
inductive PrintsGlyph (map : RowMap) (classifier : Classifier) (boxes : Bool) (leader : Nat)
    (base : Char) : Char → Prop
  | joined {glyph : Char} (h : map.glyph? (map.toVisual leader) = some glyph) :
      PrintsGlyph map classifier boxes leader base glyph
  | mirrored {glyph : Char} (h : map.glyph? (map.toVisual leader) = none)
      (hdirection : map.logicalDirection leader = .rtl)
      (hmirror : mirror? base boxes (some classifier) = some glyph) :
      PrintsGlyph map classifier boxes leader base glyph
  | itself (h : map.glyph? (map.toVisual leader) = none)
      (hmirror : map.logicalDirection leader = .ltr ∨ mirror? base boxes (some classifier) = none) :
      PrintsGlyph map classifier boxes leader base base

/-- The visual column shows one of the `count` cells of the leader at `first`. -/
structure ShowsLeader (map : RowMap) (content : Row) (visual first count : Nat) (base : Char)
    (marks : List Char) : Prop where
  cell? : ∃ columns, content.cell? first = some (.leader base marks columns)
  isUnit : Cell.IsUnit (content.shownCells map.width) first count
  first_le : first ≤ map.toLogical visual
  lt_add : map.toLogical visual < first + count

/-- The piece that a visual column adds to the text of a row. -/
inductive Prints (map : RowMap) (classifier : Classifier) (content : Row) (visual : Nat) :
    Piece → Prop
  /-- The row has no such cell. -/
  | past (h : content.size ≤ map.toLogical visual) : Prints map classifier content visual .blank
  /-- A fragment without a leader. -/
  | orphan (h : ∀ column : Nat, column ≤ map.toLogical visual →
      Cell.fragmentAt (content.shownCells map.width) column = true) :
      Prints map classifier content visual .blank
  | control {first count : Nat} {base : Char} {marks : List Char}
      (h : map.ShowsLeader content visual first count base marks)
      (hcontrol : isControl base = true) : Prints map classifier content visual .blank
  /-- The leftmost column of a character. -/
  | leftmost {first count : Nat} {base glyph : Char} {marks : List Char}
      (h : map.ShowsLeader content visual first count base marks)
      (hprinted : isControl base = false)
      (hleft : ∀ j : Nat, j < count → visual ≤ map.toVisual (first + j))
      (hglyph : map.PrintsGlyph classifier content.flags.boxMirror first base glyph) :
      Prints map classifier content visual (.printed first glyph marks)
  /-- Another column of it. -/
  | covered {first count : Nat} {base : Char} {marks : List Char}
      (h : map.ShowsLeader content visual first count base marks)
      (hprinted : isControl base = false)
      (hleft : ∃ j : Nat, j < count ∧ map.toVisual (first + j) < visual) :
      Prints map classifier content visual .nothing

/-! ## The pieces of a text -/

/-- The piece that is printed at a visual column. -/
def pieceAt (map : RowMap) (classifier : Classifier) (content : Row) (visual : Nat) : Piece :=
  match map.leaderAt? content visual with
  | none => .blank
  | some column =>
    match content.cell? column with
    | some (.leader base marks _) =>
      if isControl base then .blank
      else if ∃ earlier < visual, map.leaderAt? content earlier = some column then .nothing
      else
        .printed column (map.printedGlyph classifier content.flags.boxMirror visual column base)
          marks
    | _ => .blank

theorem exists_leader_of_leaderAt? {map : RowMap} {content : Row} {visual leader : Nat}
    (h : map.leaderAt? content visual = some leader) :
    ∃ base marks columns, content.cell? leader = some (.leader base marks columns) := by
  unfold leaderAt? at h
  dsimp only at h
  split at h
  · cases h
  · exact (Row.leader_of_leaderColumn? h).2

theorem pieceAt_of_none {map : RowMap} {content : Row} {visual : Nat} (classifier : Classifier)
    (h : map.leaderAt? content visual = none) : map.pieceAt classifier content visual = .blank := by
  unfold pieceAt
  rw [h]

theorem pieceAt_of_leader {map : RowMap} {content : Row} {visual leader : Nat} {base : Char}
    {marks : List Char} {columns : Nat} (classifier : Classifier)
    (h : map.leaderAt? content visual = some leader)
    (hcell : content.cell? leader = some (.leader base marks columns)) :
    map.pieceAt classifier content visual =
      if isControl base then .blank
      else if ∃ earlier < visual, map.leaderAt? content earlier = some leader then .nothing
      else
        .printed leader (map.printedGlyph classifier content.flags.boxMirror visual leader base)
          marks := by
  unfold pieceAt
  rw [h]
  dsimp only
  rw [hcell]

/-- The leaders that have been printed are those of the columns on the left. -/
def HasPrinted (map : RowMap) (content : Row) (visual : Nat) (printed : List Nat) : Prop :=
  ∀ column, content.printsAt column = true →
    (column ∈ printed ↔ ∃ earlier < visual, map.leaderAt? content earlier = some column)

theorem hasPrinted_zero (map : RowMap) (content : Row) : map.HasPrinted content 0 [] := by
  intro column _
  constructor
  · intro hmem
    cases hmem
  · rintro ⟨earlier, hearlier, -⟩
    cases hearlier

namespace HasPrinted

variable {map : RowMap} {content : Row} {visual : Nat} {printed : List Nat}

theorem exists_lt_succ {column : Nat} :
    (∃ earlier < visual + 1, map.leaderAt? content earlier = some column) ↔
      (∃ earlier < visual, map.leaderAt? content earlier = some column) ∨
        map.leaderAt? content visual = some column := by
  constructor
  · rintro ⟨earlier, hlt, hearlier⟩
    rcases Nat.lt_succ_iff_lt_or_eq.1 hlt with hbefore | rfl
    · exact .inl ⟨earlier, hbefore, hearlier⟩
    · exact .inr hearlier
  · rintro (⟨earlier, hlt, hearlier⟩ | hvisual)
    · exact ⟨earlier, Nat.lt_succ_of_lt hlt, hearlier⟩
    · exact ⟨visual, Nat.lt_succ_self visual, hvisual⟩

/-- A column that prints nothing of its own adds no leader. -/
theorem skip (h : map.HasPrinted content visual printed)
    (hskip : ∀ column, map.leaderAt? content visual = some column →
      content.printsAt column = true → column ∈ printed) :
    map.HasPrinted content (visual + 1) printed := by
  intro column hprinted
  rw [exists_lt_succ, h column hprinted]
  constructor
  · exact .inl
  · rintro (hbefore | hvisual)
    · exact hbefore
    · exact (h column hprinted).1 (hskip column hvisual hprinted)

theorem print (h : map.HasPrinted content visual printed) {leader : Nat}
    (hleader : map.leaderAt? content visual = some leader) :
    map.HasPrinted content (visual + 1) (leader :: printed) := by
  intro column hprinted
  rw [exists_lt_succ, List.mem_cons, h column hprinted, hleader, Option.some.injEq]
  constructor
  · rintro (rfl | hbefore)
    · exact .inr rfl
    · exact .inl hbefore
  · rintro (hbefore | rfl)
    · exact .inr hbefore
    · exact .inl rfl

end HasPrinted

/-- With the leaders of the columns on the left as printed ones, each column prints its piece. -/
theorem visualTextFrom_eq (map : RowMap) (classifier : Classifier) (content : Row)
    {printed : List Nat} {visual : Nat} (count : Nat) (h : map.HasPrinted content visual printed) :
    map.visualTextFrom classifier content printed visual count =
      (List.range' visual count).flatMap fun visual =>
        (map.pieceAt classifier content visual).text := by
  induction count generalizing printed visual with
  | zero => rfl
  | succ count ih =>
    rw [List.range'_succ, List.flatMap_cons]
    cases hleader : map.leaderAt? content visual with
    | none =>
      have hnext : map.HasPrinted content (visual + 1) printed := by
        refine h.skip ?_
        intro column hcolumn
        rw [hleader] at hcolumn
        cases hcolumn
      rw [pieceAt_of_none classifier hleader, visualTextFrom, hleader]
      exact congrArg (' ' :: ·) (ih hnext)
    | some leader =>
      obtain ⟨base, marks, columns, hcell⟩ := exists_leader_of_leaderAt? hleader
      have hprints : content.printsAt leader = !isControl base := by
        unfold Row.printsAt
        rw [hcell]
      -- The leaders of the columns up to this one, if it prints nothing of its own.
      have hnext (hskip : content.printsAt leader = true → leader ∈ printed) :
          map.HasPrinted content (visual + 1) printed := by
        refine h.skip ?_
        intro column hcolumn hprinted
        obtain rfl := Option.some.inj (hleader.symm.trans hcolumn)
        exact hskip hprinted
      rw [pieceAt_of_leader classifier hleader hcell, visualTextFrom, hleader]
      dsimp only
      rw [hcell]
      dsimp only
      by_cases hcontrol : isControl base = true
      · rw [if_pos hcontrol, if_pos hcontrol]
        refine congrArg (' ' :: ·) (ih (hnext ?_))
        intro hprinted
        rw [hprints, hcontrol] at hprinted
        cases hprinted
      · have hprinted : content.printsAt leader = true := by
          rw [hprints, Bool.eq_false_iff.2 hcontrol]
          rfl
        rw [if_neg hcontrol, if_neg hcontrol]
        by_cases hmem : leader ∈ printed
        · rw [if_pos (List.contains_iff_mem.2 hmem), if_pos ((h leader hprinted).1 hmem)]
          exact ih (hnext fun _ => hmem)
        · rw [if_neg (mt List.contains_iff_mem.1 hmem), if_neg (mt (h leader hprinted).2 hmem)]
          exact congrArg (_ ++ ·) (ih (h.print hleader))

/-! ## What a piece is -/

namespace IsMutual

variable {map : RowMap}

theorem exists_column (h : map.IsMutual) {visual : Nat} (hlt : visual < map.width) :
    ∃ column : Nat, column < map.width ∧ map.toLogical visual = column := by
  have hin := h.toLogical_inside visual ⟨Int.natCast_nonneg visual, Int.ofNat_lt.2 hlt⟩
  exact ⟨(map.toLogical visual).toNat, by omega, by omega⟩

theorem exists_visual (h : map.IsMutual) {column : Nat} (hlt : column < map.width) :
    ∃ visual : Nat, visual < map.width ∧ map.toVisual column = visual ∧
      map.toLogical visual = column := by
  have hin := h.toVisual_inside column ⟨Int.natCast_nonneg column, Int.ofNat_lt.2 hlt⟩
  obtain ⟨visual, hvisual⟩ := Int.eq_ofNat_of_zero_le hin.1
  refine ⟨visual, ?_, hvisual, ?_⟩
  · omega
  · rw [← hvisual, h.toLogical_toVisual]

/-- The columns of a row in the order in which they are shown. -/
theorem perm_toLogical (h : map.IsMutual) :
    ((List.range map.width).map fun visual : Nat => (map.toLogical visual).toNat).Perm
      (List.range map.width) := by
  have hnodup : ((List.range map.width).map fun visual : Nat =>
      (map.toLogical visual).toNat).Nodup := by
    refine List.Nodup.map_on ?_ List.nodup_range
    intro visual hvisual other hother hsame
    obtain ⟨column, -, hcolumn⟩ := h.exists_column (List.mem_range.1 hvisual)
    obtain ⟨column', -, hcolumn'⟩ := h.exists_column (List.mem_range.1 hother)
    have hlogical : map.toLogical visual = map.toLogical other := by omega
    have hback := h.toVisual_toLogical visual
    rw [hlogical, h.toVisual_toLogical] at hback
    omega
  refine (List.perm_ext_iff_of_nodup hnodup List.nodup_range).2 ?_
  intro column
  rw [List.mem_map]
  constructor
  · rintro ⟨visual, hvisual, rfl⟩
    obtain ⟨column, hlt, hcolumn⟩ := h.exists_column (List.mem_range.1 hvisual)
    rw [hcolumn]
    exact List.mem_range.2 hlt
  · intro hcolumn
    obtain ⟨visual, hvisual, -, hlogical⟩ := h.exists_visual (List.mem_range.1 hcolumn)
    refine ⟨visual, List.mem_range.2 hvisual, ?_⟩
    rw [hlogical]
    rfl

end IsMutual

section Row

variable {map : RowMap} {classifier : Classifier} {content : Row} {visual first count : Nat}
  {base : Char} {marks : List Char}

theorem leaderAt?_eq {column : Nat} (h : map.toLogical visual = column) :
    map.leaderAt? content visual = content.leaderColumn? column := by
  unfold leaderAt?
  dsimp only
  rw [h, if_neg (by omega), Int.toNat_natCast]

namespace ShowsLeader

theorem leaderAt?_eq (h : map.ShowsLeader content visual first count base marks)
    (hmutual : map.IsMutual) (hlt : visual < map.width) :
    map.leaderAt? content visual = some first := by
  obtain ⟨columns, hcell⟩ := h.cell?
  obtain ⟨column, hcolumn, hlogical⟩ := hmutual.exists_column hlt
  have hle := h.first_le
  have hin := h.lt_add
  rw [RowMap.leaderAt?_eq hlogical]
  exact Row.leaderColumn?_of_isUnit hcell h.isUnit (by omega) hcolumn

theorem printsAt (h : map.ShowsLeader content visual first count base marks) :
    content.printsAt first = !isControl base := by
  obtain ⟨columns, hcell⟩ := h.cell?
  unfold Row.printsAt
  rw [hcell]

/-- The columns of the leader and the visual columns that show them. -/
theorem exists_offset (h : map.ShowsLeader content visual first count base marks)
    (hmutual : map.IsMutual) :
    ∃ j : Nat, j < count ∧ map.toLogical visual = first + j ∧
      map.toVisual (first + j) = visual := by
  have hle := h.first_le
  have hlt := h.lt_add
  refine ⟨(map.toLogical visual - first).toNat, by omega, by omega, ?_⟩
  rw [show (first : Int) + (map.toLogical visual - first).toNat = map.toLogical visual by omega,
    hmutual.toVisual_toLogical]

/-- Another column of the same leader. -/
theorem of_offset (h : map.ShowsLeader content visual first count base marks)
    (hmutual : map.IsMutual) {j : Nat} (hj : j < count) :
    ∃ other : Nat, other < map.width ∧ map.toVisual (first + j) = other ∧
      map.ShowsLeader content other first count base marks := by
  have hcell := h.isUnit.lt_length (Nat.le_add_right first j) (Nat.add_lt_add_left hj first)
  rw [Row.length_shownCells] at hcell
  have hlt : first + j < map.width := by omega
  obtain ⟨other, hother, hvisual, hlogical⟩ := hmutual.exists_visual hlt
  rw [Int.natCast_add] at hvisual
  refine ⟨other, hother, hvisual, h.cell?, h.isUnit, ?_, ?_⟩
  · omega
  · omega

/-- The leader and its columns are determined. -/
theorem unique {first' count' : Nat} {base' : Char} {marks' : List Char}
    (h : map.ShowsLeader content visual first count base marks)
    (h' : map.ShowsLeader content visual first' count' base' marks') :
    first = first' ∧ count = count' ∧ base = base' ∧ marks = marks' := by
  have hle := h.first_le
  have hlt := h.lt_add
  have hle' := h'.first_le
  have hlt' := h'.lt_add
  have hin : first ≤ (map.toLogical visual).toNat ∧
      (map.toLogical visual).toNat < first + count := by omega
  have hin' : first' ≤ (map.toLogical visual).toNat ∧
      (map.toLogical visual).toNat < first' + count' := by omega
  obtain ⟨rfl, rfl⟩ := h.isUnit.unique h'.isUnit hin hin'
  obtain ⟨columns, hcell⟩ := h.cell?
  obtain ⟨columns', hcell'⟩ := h'.cell?
  cases hcell.symm.trans hcell'
  exact ⟨rfl, rfl, rfl, rfl⟩

end ShowsLeader

theorem exists_showsLeader (hmutual : map.IsMutual) (hlt : visual < map.width)
    (h : map.leaderAt? content visual = some first) :
    ∃ count base marks, map.ShowsLeader content visual first count base marks := by
  obtain ⟨column, hcolumn, hlogical⟩ := hmutual.exists_column hlt
  have hcovers := content.covers_leaderColumn? hcolumn
  rw [← leaderAt?_eq hlogical, h] at hcovers
  cases hcovers with
  | led hcell hunit hin =>
    refine ⟨_, _, _, ⟨_, hcell⟩, hunit, ?_, ?_⟩
    · omega
    · omega

/-- A column without a leader is past the cells, or a fragment. -/
theorem prints_blank (hmutual : map.IsMutual) (hlt : visual < map.width)
    (h : map.leaderAt? content visual = none) :
    map.Prints classifier content visual .blank := by
  obtain ⟨column, hcolumn, hlogical⟩ := hmutual.exists_column hlt
  have hcovers := content.covers_leaderColumn? hcolumn
  rw [← leaderAt?_eq hlogical, h] at hcovers
  cases hcovers with
  | past hpast =>
    refine .past ?_
    omega
  | orphan horphan =>
    refine .orphan ?_
    intro earlier hearlier
    exact horphan earlier (by omega)

theorem printsGlyph_printedGlyph (classifier : Classifier) (boxes : Bool) (base : Char)
    (hdirection : map.visualDirection visual = map.logicalDirection first) :
    map.PrintsGlyph classifier boxes first base
      (map.printedGlyph classifier boxes visual first base) := by
  unfold printedGlyph
  rw [hdirection]
  cases hglyph : map.glyph? (map.toVisual first) with
  | some glyph => exact .joined hglyph
  | none =>
    dsimp only
    cases hlogical : map.logicalDirection first with
    | ltr => exact .itself hglyph (.inl hlogical)
    | rtl =>
      dsimp only
      cases hmirror : mirror? base boxes (some classifier) with
      | some glyph => exact .mirrored hglyph hlogical hmirror
      | none => exact .itself hglyph (.inr hmirror)

/-- The units of the row are drawn in one direction each. -/
def DrawsUnits (map : RowMap) (content : Row) : Prop :=
  ∀ first count, Cell.IsUnit (content.shownCells map.width) first count →
    DrawnTogether map.toVisual map.visualDirection first count

theorem ShowsLeader.visualDirection_eq (h : map.ShowsLeader content visual first count base marks)
    (hmutual : map.IsMutual) (htogether : map.DrawsUnits content) :
    map.visualDirection visual = map.logicalDirection first := by
  obtain ⟨direction, hunit⟩ := htogether first count h.isUnit
  obtain ⟨j, hj, -, hvisual⟩ := h.exists_offset hmutual
  have hown := (hunit j hj).1
  have hfirst := (hunit 0 (Nat.lt_of_le_of_lt (Nat.zero_le j) hj)).1
  rw [hvisual] at hown
  rw [Int.natCast_zero, Int.add_zero] at hfirst
  rw [hmutual.logicalDirection, hfirst, hown]

theorem prints_pieceAt (hmutual : map.IsMutual) (htogether : map.DrawsUnits content)
    (hlt : visual < map.width) :
    map.Prints classifier content visual (map.pieceAt classifier content visual) := by
  cases hleader : map.leaderAt? content visual with
  | none =>
    rw [pieceAt_of_none classifier hleader]
    exact prints_blank hmutual hlt hleader
  | some leader =>
    obtain ⟨count, base, marks, hshows⟩ := exists_showsLeader hmutual hlt hleader
    obtain ⟨columns, hcell⟩ := hshows.cell?
    rw [pieceAt_of_leader classifier hleader hcell]
    by_cases hcontrol : isControl base = true
    · rw [if_pos hcontrol]
      exact .control hshows hcontrol
    · have hprinted := Bool.eq_false_iff.2 hcontrol
      rw [if_neg hcontrol]
      split
      · next hbefore =>
        obtain ⟨earlier, hearlier, hsame⟩ := hbefore
        obtain ⟨count', base', marks', hshows'⟩ :=
          exists_showsLeader hmutual (Nat.lt_trans hearlier hlt) hsame
        obtain ⟨j, hj, -, hvisual⟩ := hshows'.exists_offset hmutual
        obtain rfl : count' = count :=
          Nat.le_antisymm (hshows'.isUnit.count_le hshows.isUnit)
            (hshows.isUnit.count_le hshows'.isUnit)
        refine .covered hshows hprinted ⟨j, hj, ?_⟩
        omega
      · next hfirst =>
        refine .leftmost hshows hprinted ?_
          (printsGlyph_printedGlyph classifier _ base (hshows.visualDirection_eq hmutual htogether))
        intro j hj
        obtain ⟨other, hother, hvisual, hshows'⟩ := hshows.of_offset hmutual hj
        by_contra hbefore
        exact hfirst ⟨other, by omega, hshows'.leaderAt?_eq hmutual hother⟩

/-- The text of a row is made of one piece for each visual column. -/
theorem exists_pieces (classifier : Classifier) (hmutual : map.IsMutual)
    (htogether : map.DrawsUnits content) :
    ∃ piece : Nat → Piece,
      map.visualText classifier (some content) =
        (List.range map.width).flatMap (fun visual => (piece visual).text) ∧
      ∀ visual < map.width, map.Prints classifier content visual (piece visual) := by
  refine ⟨map.pieceAt classifier content, ?_, fun visual => prints_pieceAt hmutual htogether⟩
  rw [List.range_eq_range']
  exact map.visualTextFrom_eq classifier content map.width (map.hasPrinted_zero content)

theorem ShowsLeader.isPrinted (h : map.ShowsLeader content visual first count base marks)
    (hmutual : map.IsMutual) (hlt : visual < map.width) :
    content.isPrinted (map.toLogical visual).toNat = !isControl base := by
  obtain ⟨column, -, hlogical⟩ := hmutual.exists_column hlt
  have hleader := h.leaderAt?_eq hmutual hlt
  rw [RowMap.leaderAt?_eq hlogical] at hleader
  unfold Row.isPrinted
  rw [hlogical, Int.toNat_natCast, hleader, ← h.printsAt]
  rfl

theorem Prints.eq_blank_iff {drawn : Piece} (h : map.Prints classifier content visual drawn)
    (hmutual : map.IsMutual) (hlt : visual < map.width) :
    drawn = .blank ↔ content.isPrinted (map.toLogical visual).toNat = false := by
  obtain ⟨column, hcolumn, hlogical⟩ := hmutual.exists_column hlt
  have hnone (h : content.leaderColumn? column = none) :
      content.isPrinted (map.toLogical visual).toNat = false := by
    unfold Row.isPrinted
    rw [hlogical, Int.toNat_natCast, h]
    rfl
  cases h with
  | past hpast => exact ⟨fun _ => hnone (Row.leaderColumn?_of_past (by omega)), fun _ => rfl⟩
  | orphan horphan =>
    refine ⟨fun _ => hnone (Row.leaderColumn?_of_orphan hcolumn ?_), fun _ => rfl⟩
    intro earlier hearlier
    exact horphan earlier (by omega)
  | control hshows hcontrol => simp [hshows.isPrinted hmutual hlt, hcontrol]
  | leftmost hshows hprinted _ _ => simp [hshows.isPrinted hmutual hlt, hprinted]
  | covered hshows hprinted _ => simp [hshows.isPrinted hmutual hlt, hprinted]

/-! ## Every character once -/

variable {piece : Nat → Piece}

theorem Prints.leftmost_of_leader? (h : map.Prints classifier content visual (piece visual))
    (hleader : (piece visual).leader? = some first) :
    ∃ count base marks, map.ShowsLeader content visual first count base marks ∧
      isControl base = false ∧ ∀ j : Nat, j < count → visual ≤ map.toVisual (first + j) := by
  generalize piece visual = drawn at h hleader
  cases h with
  | leftmost hshows hprinted hleft _ =>
    cases hleader
    exact ⟨_, _, _, hshows, hprinted, hleft⟩
  | _ => cases hleader

/-- Some column on the left of a character's columns, or one of them, prints it. -/
theorem ShowsLeader.exists_leader?_eq
    (h : map.ShowsLeader content visual first count base marks) (hprinted : isControl base = false)
    (hmutual : map.IsMutual) (hlt : visual < map.width)
    (hpiece : ∀ visual < map.width, map.Prints classifier content visual (piece visual)) :
    ∃ visual < map.width, (piece visual).leader? = some first := by
  induction visual using Nat.strongRecOn with
  | ind visual ih =>
    have hprints := hpiece visual hlt
    cases hdrawn : piece visual with
    | blank =>
      have hblank := (hprints.eq_blank_iff hmutual hlt).1 hdrawn
      rw [h.isPrinted hmutual hlt, hprinted] at hblank
      cases hblank
    | printed leader glyph marks =>
      rw [hdrawn] at hprints
      cases hprints with
      | leftmost hother _ _ _ =>
        obtain ⟨rfl, -, -, -⟩ := h.unique hother
        refine ⟨visual, hlt, ?_⟩
        rw [hdrawn]
        rfl
    | nothing =>
      rw [hdrawn] at hprints
      cases hprints with
      | covered hother _ hleft =>
        obtain ⟨rfl, rfl, -, -⟩ := h.unique hother
        obtain ⟨j, hj, hbefore⟩ := hleft
        obtain ⟨earlier, hearlier, hvisual, hshows⟩ := h.of_offset hmutual hj
        exact ih earlier (by omega) hshows hearlier

theorem exists_showsLeader_of_printsAt (hmutual : map.IsMutual)
    (hprints : content.printsAt first = true) (hlt : first < map.width) :
    ∃ visual < map.width, ∃ count base marks,
      map.ShowsLeader content visual first count base marks ∧ isControl base = false := by
  unfold Row.printsAt at hprints
  split at hprints
  · next base marks columns hcell =>
    have hleader : content.leaderColumn? first = some first :=
      Row.leaderColumn?_of_led hcell (Nat.le_refl first) hlt fun later hlater hbehind =>
        absurd hbehind (Nat.not_lt.2 hlater)
    obtain ⟨visual, hvisual, -, hlogical⟩ := hmutual.exists_visual hlt
    rw [← leaderAt?_eq hlogical] at hleader
    obtain ⟨count, base', marks', hshows⟩ := exists_showsLeader hmutual hvisual hleader
    refine ⟨visual, hvisual, count, base', marks', hshows, ?_⟩
    obtain ⟨columns', hcell'⟩ := hshows.cell?
    cases hcell.symm.trans hcell'
    simpa using hprints
  · cases hprints

/-- Every character of the row is printed once. -/
theorem perm_leaders (hmutual : map.IsMutual)
    (hpiece : ∀ visual < map.width, map.Prints classifier content visual (piece visual)) :
    ((List.range map.width).filterMap fun visual => (piece visual).leader?).Perm
      ((List.range map.width).filter content.printsAt) := by
  have hnodup : ((List.range map.width).filterMap fun visual => (piece visual).leader?).Nodup := by
    refine List.pairwise_filterMap.2 (List.pairwise_lt_range.imp_of_mem ?_)
    rintro visual other hvisual hother hlt leader hleader _ hleader' rfl
    obtain ⟨count, base, marks, hshows, -, -⟩ :=
      (hpiece visual (List.mem_range.1 hvisual)).leftmost_of_leader? hleader
    obtain ⟨count', base', marks', hshows', -, hleft⟩ :=
      (hpiece other (List.mem_range.1 hother)).leftmost_of_leader? hleader'
    -- Both are columns of the leader, and the right one is the leftmost one.
    obtain ⟨j, hj, -, hvisual⟩ := hshows.exists_offset hmutual
    have hle := hleft j (Nat.lt_of_lt_of_le hj (hshows.isUnit.count_le hshows'.isUnit))
    omega
  refine (List.perm_ext_iff_of_nodup hnodup (List.nodup_range.filter _)).2 ?_
  intro leader
  rw [List.mem_filterMap, List.mem_filter, List.mem_range]
  constructor
  · rintro ⟨visual, hvisual, hleader⟩
    have hlt := List.mem_range.1 hvisual
    obtain ⟨count, base, marks, hshows, hprinted, -⟩ :=
      (hpiece visual hlt).leftmost_of_leader? hleader
    obtain ⟨column, hcolumn, hlogical⟩ := hmutual.exists_column hlt
    have hle := hshows.first_le
    refine ⟨by omega, ?_⟩
    rw [hshows.printsAt, hprinted]
    rfl
  · rintro ⟨hlt, hprints⟩
    obtain ⟨visual, hvisual, count, base, marks, hshows, hprinted⟩ :=
      exists_showsLeader_of_printsAt hmutual hprints hlt
    obtain ⟨other, hother, hleader⟩ :=
      hshows.exists_leader?_eq hprinted hmutual hvisual hpiece
    exact ⟨other, List.mem_range.2 hother, hleader⟩

/-- The blanks and the columns of the printed characters are all columns of the row. -/
theorem countP_blank_add (hmutual : map.IsMutual)
    (hpiece : ∀ visual < map.width, map.Prints classifier content visual (piece visual)) :
    (List.range map.width).countP (piece · = .blank) +
      (((Line.ofRow map.width content).units.filter (content.printsAt ·.1)).map Prod.snd).sum =
        map.width := by
  have hblank : (List.range map.width).countP (piece · = .blank) =
      (List.range map.width).countP fun column => !content.isPrinted column := by
    rw [← hmutual.perm_toLogical.countP_eq (fun column => !content.isPrinted column),
      List.countP_map]
    refine List.countP_congr ?_
    intro visual hvisual
    have hlt := List.mem_range.1 hvisual
    rw [decide_eq_true_iff, (hpiece visual hlt).eq_blank_iff hmutual hlt, Function.comp_apply,
      Bool.not_eq_true']
  have hall := List.length_eq_countP_add_countP content.isPrinted (l := List.range map.width)
  rw [List.length_range, Row.countP_isPrinted] at hall
  rw [hblank]
  simp only [decide_not, Bool.decide_eq_true] at hall
  omega

/-- The text of a row in visual order: one piece for each visual column, every character of the
row in one of them, and as many blanks as the characters leave columns. -/
structure Renders (map : RowMap) (classifier : Classifier) (content : Row) (piece : Nat → Piece)
    (units : List (Nat × Nat)) (text : List Char) : Prop where
  text_eq : text = (List.range map.width).flatMap fun visual => (piece visual).text
  prints : ∀ visual < map.width, map.Prints classifier content visual (piece visual)
  listsUnits : Cell.ListsUnits (content.shownCells map.width) units
  perm : ((List.range map.width).filterMap fun visual => (piece visual).leader?).Perm
    ((List.range map.width).filter content.printsAt)
  blanks_add : (List.range map.width).countP (piece · = .blank) +
    ((units.filter (content.printsAt ·.1)).map Prod.snd).sum = map.width

theorem exists_renders (classifier : Classifier) (hmutual : map.IsMutual)
    (htogether : map.DrawsUnits content) :
    ∃ piece units,
      map.Renders classifier content piece units (map.visualText classifier (some content)) := by
  obtain ⟨piece, htext, hpiece⟩ := exists_pieces classifier hmutual htogether
  exact ⟨piece, (Line.ofRow map.width content).units, htext, hpiece,
    Line.listsUnits_ofRow map.width content, perm_leaders hmutual hpiece,
    countP_blank_add hmutual hpiece⟩

end Row

end RowMap

end BidiViewport
