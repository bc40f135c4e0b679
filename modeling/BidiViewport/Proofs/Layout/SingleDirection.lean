import BidiViewport.Classifier.Unicode
import BidiViewport.Proofs.Layout.Placement
import BidiViewport.Proofs.Layout.Units

/-!
# Paragraphs of a single direction

A paragraph that stays on its own level is laid out straight, and its lines are never put into
visual order.  Ordering them comes to the same: the visual order of such a line spells out the
straight columns of its row (`Line.columns_single`), whatever cells the row has and however
much of it they fill.

* `LineOrder.single` is the order that rule L2 gives such a line, and `Classifier.OrdersSingle`
  that a classifier knows it.  The bidirectional algorithm does (`ordersSingle_unicode`).
* `Classifier.mapAnalyses` changes what a classifier answers; `Analysis.asMixed` is a paragraph
  that is ordered in any case.
-/

namespace BidiViewport

/-! ## The visual order of a line on one level -/

/-- The order of `count` characters that are all on the level of their paragraph. -/
def LineOrder.single (direction : Direction) (count : Nat) : LineOrder where
  visual := match direction with
    | .ltr => Array.range count
    | .rtl => (Array.range count).reverse
  levels := Array.replicate count direction.level

/-- Every character has the level of the paragraph. -/
def Analysis.HasOneLevel (a : Analysis) : Prop :=
  ∀ level ∈ a.levels, level = a.direction.level

/-- The classifier recognises paragraphs that have one level, and orders the lines of such a
paragraph as they stand or, from right to left, back to front. -/
structure Classifier.OrdersSingle (c : Classifier) : Prop where
  isSingle_iff : ∀ {text : List Char} {base : ParagraphBase} {a : Analysis},
    c.analyze text base = .ok a → (a.isSingle = true ↔ a.HasOneLevel)
  reorder_eq : ∀ {text : List Char} {base : ParagraphBase} {a : Analysis} {start stop : Nat},
    c.analyze text base = .ok a → a.HasOneLevel → start ≤ stop → stop ≤ text.length →
      a.reorder start stop = .ok (.single a.direction (stop - start))

/-! ### Rules L1 and L2 on one level -/

namespace VisualOrder

variable {paragraph : Nat} {line : List (BidiClass × Nat)}

theorem followPrevious_of_forall (h : ∀ entry ∈ line, entry.2 = paragraph) :
    followPrevious paragraph paragraph line = line := by
  induction line with
  | nil => rfl
  | cons entry rest ih =>
    obtain ⟨c, level⟩ := entry
    obtain rfl : level = paragraph := h _ List.mem_cons_self
    simp only [followPrevious, ite_self]
    rw [ih fun entry hentry => h entry (List.mem_cons_of_mem _ hentry)]

theorem resetBlanks_of_forall (h : ∀ entry ∈ line, entry.2 = paragraph) :
    ∀ level ∈ (resetBlanks paragraph line).1, level = paragraph := by
  induction line with
  | nil => simp [resetBlanks]
  | cons entry rest ih =>
    have hrest := ih fun entry hentry => h entry (List.mem_cons_of_mem _ hentry)
    obtain ⟨c, level⟩ := entry
    obtain rfl : level = paragraph := h _ List.mem_cons_self
    intro other hother
    simp only [resetBlanks, ite_self] at hother
    split at hother
    · rcases List.mem_cons.1 hother with rfl | hlater
      · rfl
      · exact hrest other hlater
    · split at hother
      all_goals
        rcases List.mem_cons.1 hother with rfl | hlater
        · rfl
        · exact hrest other hlater

theorem lineLevels_of_forall (h : ∀ entry ∈ line, entry.2 = paragraph) :
    lineLevels paragraph line = List.replicate line.length paragraph := by
  rw [List.eq_replicate_iff, length_lineLevels]
  refine ⟨rfl, ?_⟩
  rw [lineLevels, followPrevious_of_forall h]
  exact resetBlanks_of_forall h

theorem reverseRuns_of_forall {level : Nat} {run entries : List (Nat × Nat)}
    (h : ∀ entry ∈ entries, level ≤ entry.2) :
    reverseRuns level run entries = entries.reverse ++ run := by
  induction entries generalizing run with
  | nil => rfl
  | cons entry rest ih =>
    rw [reverseRuns, if_pos (h entry List.mem_cons_self),
      ih fun entry hentry => h entry (List.mem_cons_of_mem _ hentry)]
    simp

/-- A line on one level keeps its order on level 0 and is reversed on level 1. -/
theorem ofLevels_replicate (direction : Direction) (count : Nat) :
    ofLevels (List.replicate count direction.level) =
      (LineOrder.single direction count).visual.toList := by
  have hentries : (List.range count).zip (List.replicate count direction.level) =
      (List.range count).map fun i => (i, direction.level) := by
    apply List.ext_getElem
    · simp
    · simp
  have hfst : ((List.range count).map fun i => (i, direction.level)).map Prod.fst =
      List.range count := by
    simp [Function.comp_def]
  cases count with
  | zero => cases direction <;> rfl
  | succ count =>
    unfold ofLevels
    rw [List.min?_replicate, List.max?_replicate, if_neg (Nat.succ_ne_zero count)]
    dsimp only
    rw [List.length_replicate, hentries]
    cases direction with
    | ltr => exact hfst.trans (by simp [LineOrder.single])
    | rtl =>
      have hreverse := @reverseRuns_of_forall 1 []
        ((List.range (count + 1)).map fun i => (i, Direction.rtl.level)) (by simp [Direction.level])
      have hone : reverseLevels (oddFrom Direction.rtl.level)
          (Direction.rtl.level + 1 - oddFrom Direction.rtl.level)
          ((List.range (count + 1)).map fun i => (i, Direction.rtl.level)) =
          reverseRuns 1 [] ((List.range (count + 1)).map fun i => (i, Direction.rtl.level)) := rfl
      rw [hone, hreverse, List.append_nil, List.map_reverse, hfst]
      simp [LineOrder.single]

end VisualOrder

theorem Classifier.orderLine_single {direction : Direction} {classes : Array BidiClass}
    {levels : Array Nat} {start stop : Nat} (hsize : classes.size = levels.size)
    (hlevels : ∀ level ∈ levels, level = direction.level) (hle : start ≤ stop)
    (hstop : stop ≤ levels.size) :
    orderLine direction.level classes levels start stop =
      .ok (.single direction (stop - start)) := by
  have hline : ∀ entry ∈ ((classes.extract start stop).zip (levels.extract start stop)).toList,
      entry.2 = direction.level := by
    intro entry hentry
    rw [Array.toList_zip] at hentry
    have hmem := (List.of_mem_zip hentry).2
    rw [Array.toList_extract, List.extract_eq_take_drop] at hmem
    exact hlevels _ (Array.mem_toList_iff.1 (List.mem_of_mem_drop (List.mem_of_mem_take hmem)))
  have hlength : ((classes.extract start stop).zip (levels.extract start stop)).toList.length =
      stop - start := by
    simp [hsize]
    omega
  unfold orderLine
  rw [if_neg (by omega)]
  dsimp only
  rw [VisualOrder.lineLevels_of_forall hline, hlength, VisualOrder.ofLevels_replicate]
  simp [LineOrder.single]

/-- The bidirectional algorithm orders lines on one level as they stand, or back to front. -/
theorem Classifier.ordersSingle_unicode : Classifier.unicode.OrdersSingle := by
  constructor
  · intro text base a h
    obtain rfl := eq_analysis_of_analyze h
    simp [analysis, Analysis.HasOneLevel]
  · intro text base a start stop h hlevels hle hstop
    obtain rfl := eq_analysis_of_analyze h
    exact orderLine_single (by simp) hlevels hle (by simpa using hstop)

/-! ## Its columns -/

namespace Line

variable {row : Row} {width : Nat}

theorem content_single_eq (line : Line) (direction : Direction) :
    line.content (.single direction line.spans.size) =
      (LineOrder.single direction line.spans.size).visual.toList.flatMap fun i =>
        match line.spans[i]? with
        | some span => span.drawn direction
        | none => [] := by
  unfold content
  refine congrArg (List.flatMap · _) (funext fun i => ?_)
  cases hspan : line.spans[i]? with
  | none => rfl
  | some span =>
    have hi : i < line.spans.size := (Array.getElem?_eq_some_iff.1 hspan).1
    simp [LineOrder.single, hi]

/-- The characters of a row one after the other, or back to front, are its used columns. -/
theorem content_single (width : Nat) (row : Row) (direction : Direction) :
    (ofRow width row).content (.single direction (ofRow width row).spans.size) =
      match direction with
      | .ltr => (List.range (ofRow width row).used).map (·, .ltr)
      | .rtl => ((List.range (ofRow width row).used).map (·, .rtl)).reverse := by
  have hcolumns (direction : Direction) :
      (ofRow width row).spans.toList.flatMap (fun span => span.extent.map (·, direction)) =
        (List.range (ofRow width row).used).map (·, direction) := by
    rw [← flatMap_extent_ofRow, List.map_flatMap]
  rw [content_single_eq]
  cases direction with
  | ltr =>
    have hvisual : (LineOrder.single .ltr (ofRow width row).spans.size).visual.toList =
        List.range (ofRow width row).spans.size := by simp [LineOrder.single]
    rw [hvisual]
    refine Eq.trans ?_ ((flatMap_range_getElem? _ _).trans (hcolumns .ltr))
    refine congrArg (List.flatMap · _) (funext fun i => ?_)
    cases (ofRow width row).spans[i]? with
    | none => rfl
    | some span => rfl
  | rtl =>
    -- Each character is reversed in itself, and so are the characters of the line.
    have hvisual : (LineOrder.single .rtl (ofRow width row).spans.size).visual.toList =
        (List.range (ofRow width row).spans.size).reverse := by simp [LineOrder.single]
    dsimp only
    rw [hvisual, List.flatMap_reverse, ← hcolumns .rtl]
    refine congrArg List.reverse (Eq.trans ?_ (flatMap_range_getElem? _ _))
    refine congrArg (List.flatMap · _) (funext fun i => ?_)
    rw [Function.comp_apply]
    cases (ofRow width row).spans[i]? with
    | none => rfl
    | some span => exact List.reverse_reverse _

/-- Ordering the characters of a row that are on one level spells out its straight columns. -/
theorem columns_single (width : Nat) (row : Row) (direction : Direction) :
    (ofRow width row).columns width direction (.single direction (ofRow width row).spans.size) =
      RowLayout.straightColumns width direction := by
  have hle := used_ofRow_le width row
  unfold columns
  dsimp only
  rw [content_single]
  generalize ofRow width row = line at hle
  cases direction with
  | ltr =>
    simp only [leftPadding, List.nil_append, List.length_map, List.length_range]
    rw [← List.map_append, ← range_eq_append hle]
    rfl
  | rtl =>
    have hfull : width - (width - line.used + line.used) = 0 := by omega
    have hpadding : (List.range' line.used (width - line.used)).reverse =
        (List.range (width - line.used)).map fun visual => width - 1 - visual := by
      rw [List.reverse_range', Nat.add_sub_cancel' hle]
    have hstraight : RowLayout.straightColumns width .rtl =
        (List.range width).reverse.map (·, Direction.rtl) := by
      simp [RowLayout.straightColumns, List.range_eq_range', List.reverse_range']
    simp only [leftPadding, List.length_append, List.length_map, List.length_range,
      List.length_reverse, hfull, List.range'_zero, List.map_nil, List.append_nil]
    rw [hstraight, range_eq_append hle, List.reverse_append, List.map_append, hpadding, List.map_map,
      List.map_reverse]
    rfl

end Line

/-! ## Its rows, ordered or not -/

/-- The same analysis of a paragraph that is ordered in any case. -/
def Analysis.asMixed (a : Analysis) : Analysis :=
  { a with isSingle := false }

namespace RowLayout

/-- Every column is at its own place, whether the columns are spelt out or not. -/
def IsPlain (layout : RowLayout) (width : Nat) : Prop :=
  layout.arrangement = .straight ∨
    ∃ glyphs, layout.arrangement = .ordered (straightColumns width layout.direction) glyphs

namespace IsPlain

variable {layout : RowLayout} {width : Nat}

theorem isBijection (h : layout.IsPlain width) : layout.IsBijection width := by
  unfold IsBijection
  rcases h with hstraight | ⟨glyphs, hordered⟩
  · rw [hstraight]
    trivial
  · rw [hordered]
    exact straightColumns_perm width _

theorem toVisual_eq (h : layout.IsPlain width) (column : Int) :
    layout.toVisual width column = straightColumn width layout.direction column := by
  rcases h with hstraight | ⟨glyphs, hordered⟩
  · exact toVisual_straight hstraight
  · exact (answers_straightColumns hordered).1 column

theorem visualDirection_eq (h : layout.IsPlain width) (visual : Int) :
    layout.visualDirection width visual = layout.direction := by
  rcases h with hstraight | ⟨glyphs, hordered⟩
  · unfold visualDirection
    rw [shown?_straight hstraight]
  · exact (answers_straightColumns hordered).2 visual

theorem toLogical_eq (h : layout.IsPlain width) (visual : Int) :
    layout.toLogical width visual = straightColumn width layout.direction visual := by
  have hinverse := toVisual_toLogical h.isBijection visual
  rw [h.toVisual_eq] at hinverse
  rw [← hinverse, straightColumn_straightColumn, hinverse]

end IsPlain

end RowLayout

namespace RowMap

/-- Two maps draw every column in the same place and in the same direction. -/
structure PlacesAs (a b : RowMap) : Prop where
  toVisual : ∀ column, a.toVisual column = b.toVisual column
  toLogical : ∀ visual, a.toLogical visual = b.toLogical visual
  visualDirection : ∀ visual, a.visualDirection visual = b.visualDirection visual
  logicalDirection : ∀ column, a.logicalDirection column = b.logicalDirection column

/-- Rows in which every column is at its own place differ in their direction only. -/
theorem Shows.placesAs {a b : RowMap} {layoutA layoutB : RowLayout} (ha : a.Shows layoutA)
    (hb : b.Shows layoutB) (hwidth : a.width = b.width)
    (hdirection : layoutA.direction = layoutB.direction) (hplainA : layoutA.IsPlain a.width)
    (hplainB : layoutB.IsPlain b.width) : a.PlacesAs b where
  toVisual column := by
    rw [ha.toVisual, hb.toVisual, hplainA.toVisual_eq, hplainB.toVisual_eq, hdirection, hwidth]
  toLogical visual := by
    rw [ha.toLogical, hb.toLogical, hplainA.toLogical_eq, hplainB.toLogical_eq, hdirection, hwidth]
  visualDirection visual := by
    rw [ha.visualDirection, hb.visualDirection, hplainA.visualDirection_eq,
      hplainB.visualDirection_eq, hdirection]
  logicalDirection column := by
    rw [ha.logicalDirection, hb.logicalDirection, hplainA.visualDirection_eq,
      hplainB.visualDirection_eq, hdirection]

end RowMap

/-- Two layouts of a line on one level: `fast` leaves it as it is, `slow` has ordered it. -/
structure RowLayout.Shortens (fast slow : RowLayout) (width : Nat) : Prop where
  direction : fast.direction = slow.direction
  hasForeign : fast.hasForeign = false
  isOrdered : slow.isStraight = false
  isPlain_fast : fast.IsPlain width
  isPlain_slow : slow.IsPlain width
  glyph? : ∀ visual, fast.glyph? width visual = slow.glyph? width visual

/-- A line on one level looks the same when it is ordered in spite of it, with any glyphs. -/
theorem Line.exists_shortens {row : Row} {width start : Nat} {analysis : Analysis}
    (hsingle : analysis.isSingle = true)
    (horder : analysis.reorder start (start + (ofRow width row).spans.size) =
      .ok (.single analysis.direction (ofRow width row).spans.size))
    (glyphs : List (Nat × Char)) :
    ∃ fast slow, (ofRow width row).layout width analysis start glyphs = .ok fast ∧
      (ofRow width row).layout width analysis.asMixed start glyphs = .ok slow ∧
      fast.direction = analysis.direction ∧ fast.Shortens slow width := by
  have hslow : (ofRow width row).layout width analysis.asMixed start glyphs = .ok
      { direction := analysis.direction
        hasForeign := true
        arrangement := .ordered (RowLayout.straightColumns width analysis.direction) glyphs } := by
    rw [← columns_single width row]
    have hmixed : analysis.asMixed.isSingle = false := rfl
    exact layout_of_reorder hmixed horder
  refine ⟨_, _, if_pos hsingle, hslow, rfl, rfl, rfl, rfl, ?_, .inr ⟨glyphs, rfl⟩, ?_⟩
  · cases glyphs with
    | nil => exact .inl rfl
    | cons glyph rest => exact .inr ⟨_, rfl⟩
  · intro visual
    cases glyphs with
    | nil =>
      -- A straight layout has no glyphs, and the ordered one was given none.
      have hnone (layout : RowLayout) (h : ∀ column, layout.glyphFor? column = none) :
          layout.glyph? width visual = none := by
        unfold RowLayout.glyph?
        cases layout.shown? width visual with
        | none => rfl
        | some column => exact h column.1
      rw [hnone _ fun _ => rfl, hnone _ fun _ => rfl]
    | cons glyph rest => rfl

end BidiViewport
