import BidiViewport.Classifier.Unicode
import BidiViewport.Proofs.Layout.Isolation
import BidiViewport.Proofs.Layout.Placement
import BidiViewport.Proofs.Layout.Units
import BidiViewport.Proofs.Viewport.History

/-!
# Integrity of characters

A wide character is one unit of cells, and no layout takes it apart: after a recompute each
unit of a visible row is drawn side by side in one direction, in ordered rows as well as in
all rows that are not ordered (`Viewport.units_recompute`).

A row that is ordered (`Frame.OrdersLine`) shows its units in exactly the visual order that
the analysis has for the characters of the row.  The characters are numbered from the first one
of the paragraph on, the units from the first one of the row.
-/

namespace BidiViewport

namespace Frame

variable {frame : Frame} {source : RowSource} {head row : Nat} {content : Row}
  {layout : RowLayout}

/-- Whichever paragraph takes a row, the layout that it has for the row draws every unit in one
piece, if it passes the check of the map. -/
theorem drawnTogether_of_isBijection (hhead : head ≤ row) (hrow : source.rowAt row = some content)
    (hlayout : (frame.layoutParagraph source head).layouts[row - head]? = some layout)
    (hbijection : layout.IsBijection frame.width) {unit : Nat × Nat}
    (hunit : unit ∈ (Line.ofRow frame.width content).units) :
    DrawnTogether (layout.toVisual frame.width) (layout.visualDirection frame.width) unit.1
      unit.2 := by
  cases hverdict : (frame.prepare source head).verdict with
  | straight direction cause =>
    obtain rfl := getElem?_layouts_straight hverdict hlayout
    exact RowLayout.drawnTogether_straight rfl _ _
  | analysed lines analysis =>
    obtain ⟨-, own, rfl⟩ := exists_layout_of_takes hverdict hhead hrow hlayout
    generalize hresult : (Line.ofRow frame.width content).layout frame.width analysis _ own = result
      at hbijection
    cases result with
    | ok layout => exact Line.drawnTogether_layout hresult hbijection hunit
    | error error => exact RowLayout.drawnTogether_straight rfl _ _

theorem drawnTogether_of_takes (hwf : frame.classifier.WellFormed) (hhead : head ≤ row)
    (hrow : source.rowAt row = some content)
    (hlayout : (frame.layoutParagraph source head).layouts[row - head]? = some layout)
    {unit : Nat × Nat} (hunit : unit ∈ (Line.ofRow frame.width content).units) :
    DrawnTogether (layout.toVisual frame.width) (layout.visualDirection frame.width) unit.1
      unit.2 :=
  drawnTogether_of_isBijection hhead hrow hlayout
    (isBijection_of_mem_layouts hwf (List.mem_of_getElem? hlayout)) hunit

/-- The paragraph of `row` begins at `head` and has the rows `rows`.  Its analysis mixes
directions, and has an order for the characters of the row. -/
structure OrdersLine (frame : Frame) (source : RowSource) (head : Nat) (rows : List Row)
    (row : Nat) (analysis : Analysis) (order : LineOrder) : Prop where
  isHeadOf : frame.IsHeadOf source head row
  isTail : Chain.IsTail source head rows
  isAvailable : frame.classifier.isAvailable = true
  analyze_eq : ∃ call, frame.call? rows = some call ∧
    frame.classifier.analyze call.text call.base = .ok analysis
  isMixed : analysis.isSingle = false
  reorder_eq : ∃ content, rows[row - head]? = some content ∧
    let start := ((rows.take (row - head)).flatMap (Row.analysedText frame.width)).length
    analysis.reorder start (start + (content.analysedText frame.width).length) = .ok order

variable {rows : List Row} {analysis : Analysis} {order : LineOrder}

theorem OrdersLine.verdict (h : frame.OrdersLine source head rows row analysis order) :
    (frame.prepare source head).verdict =
      .analysed (rows.map (Line.ofRow frame.width)) analysis := by
  obtain ⟨call, hcall, hanalysis⟩ := h.analyze_eq
  rw [frame.verdict_prepare h.isTail, judge_of_call? h.isAvailable hcall hanalysis]

/-- An ordered row has the layout of its line in that order, a permutation of its characters. -/
theorem OrdersLine.exists_layout (hwf : frame.classifier.WellFormed)
    (h : frame.OrdersLine source head rows row analysis order)
    (hrow : source.rowAt row = some content)
    (hlayout : (frame.layoutParagraph source head).layouts[row - head]? = some layout) :
    order.visual.toList.Perm (List.range (Line.ofRow frame.width content).spans.size) ∧
      ∃ glyphs, layout.arrangement = .ordered
        ((Line.ofRow frame.width content).columns frame.width analysis.direction order) glyphs := by
  have hhead := h.isHeadOf.leads.le
  obtain ⟨hline, own, rfl⟩ := exists_layout_of_takes h.verdict hhead hrow hlayout
  obtain ⟨other, hother, horder⟩ := h.reorder_eq
  obtain rfl : content = other := by
    have hpresent := h.isTail.rowAt_add hother
    rw [Nat.add_sub_cancel' hhead, hrow] at hpresent
    exact Option.some.inj hpresent
  -- The row begins as many characters into the text as the lines above it have.
  have hstart : ((rows.take (row - head)).flatMap (Row.analysedText frame.width)).length =
      (((rows.map (Line.ofRow frame.width)).take (row - head)).flatMap Line.text).length := by
    rw [← List.map_take, Line.flatMap_text_ofRow]
  dsimp only at horder
  rw [hstart, ← Line.text_ofRow, Line.length_text] at horder
  constructor
  · obtain ⟨-, -, base, hanalysis⟩ := analysed_of_prepare h.verdict
    exact Line.perm_of_reorder (hwf _ _ _ hanalysis) (Line.length_text_take_add hline) horder
  · rw [Line.layout_of_reorder h.isMixed horder]
    exact ⟨own, rfl⟩

end Frame

namespace Viewport

/-- The first columns of a visible row are cut into units, and after a recompute each unit is
drawn in one piece and in one direction.  If the row is ordered, its used columns show the
units in the visual order of the analysis, each in the direction of its level. -/
theorem units_recompute {view : Viewport} (hview : view.IsReachable)
    (hclassifier : view.frame.classifier.WellFormed) (source : RowSource) (row : Nat)
    {content : Row} (hshows : view.frame.shows row = true)
    (hrow : source.rowAt row = some content) :
    ∃ map units, (view.recompute source).rowMap? row = some map ∧
      Cell.ListsUnits (content.cells.toList.take view.frame.width) units ∧
      (∀ unit ∈ units, DrawnTogether map.toVisual map.visualDirection unit.1 unit.2) ∧
      ∀ head rows analysis order, view.frame.OrdersLine source head rows row analysis order →
        let used := min content.size view.frame.width
        reading map.toLogical map.visualDirection
            (analysis.direction.textStart used view.frame.width) used =
          order.visual.toList.flatMap fun i => units[i]?.elim [] fun unit =>
            drawnUnit unit (.ofLevel (order.levels[i]?.getD 0)) := by
  obtain ⟨map, layout, hmap, hlayout, hwidth, hshown⟩ :=
    (hview.isSound.isCurrent_recompute source).rowMap? row hshows
  have hwidth : map.width = view.frame.width := hwidth
  have hmap' : map.Shows layout :=
    hshown (Frame.completes_of_wellFormed hclassifier source layout (List.mem_of_getElem? hlayout))
  have hvisual : map.toVisual = layout.toVisual view.frame.width := by
    funext column
    rw [hmap'.toVisual, hwidth]
  have hlogical : map.toLogical = layout.toLogical view.frame.width := by
    funext visual
    rw [hmap'.toLogical, hwidth]
  have hdirection : map.visualDirection = layout.visualDirection view.frame.width := by
    funext visual
    rw [hmap'.visualDirection, hwidth]
  have hpresent : (source.rowAt row).isSome = true := by
    rw [hrow]
    rfl
  refine ⟨map, (Line.ofRow view.frame.width content).units, hmap, Line.listsUnits_ofRow _ _,
    fun unit hunit => ?_, fun head rows analysis order horders => ?_⟩
  · obtain ⟨head, htakes, hsame⟩ := Frame.exists_takes source hshows
    rw [hvisual, hdirection]
    exact Frame.drawnTogether_of_takes hclassifier htakes.head_le hrow
      (hsame.symm.trans hlayout) hunit
  · obtain ⟨-, hsame⟩ := horders.isHeadOf.takes hshows hpresent
    obtain ⟨hperm, glyphs, harrangement⟩ :=
      horders.exists_layout hclassifier hrow (hsame.symm.trans hlayout)
    rw [hlogical, hdirection]
    exact Line.reading_ordered hperm harrangement

/-- A row that begins inside a wide character and has another one in its middle, below the row
in which its paragraph begins. -/
theorem units_recompute_bisected :
    let flags : DirectionFlags := { implicit := true, auto := true }
    let upper : Row := { cells := #[.leader 'א' [] 1, .leader 'b' [] 1], softWrapped := true, flags }
    let lower : Row :=
      { cells := #[.fragment 2, .leader '世' [] 2, .fragment 2, .leader 'ב' [] 1], flags }
    let source := ((Scrollback.empty 4).extend [upper, lower]).source
    let view := (new {} .unicode).replay [(source, .set (.width 5)), (source, .set (.rows 1 1))]
    let analysis := Classifier.analysis .rtl ['א', 'b', ' ', '世', 'ב']
    let order : LineOrder := { visual := #[2, 0, 1], levels := #[2, 2, 1] }
    view.IsReachable ∧ view.frame.classifier.WellFormed ∧ view.frame.shows 1 = true ∧
      source.rowAt 1 = some lower ∧ view.frame.OrdersLine source 0 [upper, lower] 1 analysis order ∧
      ∃ map, (view.recompute source).rowMap? 1 = some map ∧
        DrawnTogether map.toVisual map.visualDirection 1 2 ∧
        reading map.toLogical map.visualDirection 1 4 =
          [(3, .rtl), (0, .ltr), (1, .ltr), (2, .ltr)] := by
  intro flags upper lower source view analysis order
  have hview : view.IsReachable := ⟨{}, .unicode, _, rfl⟩
  have hclassifier : view.frame.classifier.WellFormed := Classifier.wellFormed_unicode
  have hleads : Chain.Leads source 0 1 := (Chain.Leads.refl source 0).succ (by decide)
  have hcall : view.frame.call? [upper, lower] =
      some ⟨['א', 'b', ' ', '世', 'ב'], .auto .ltr⟩ := by decide +kernel
  have hanalysis : Classifier.unicode.analyze ['א', 'b', ' ', '世', 'ב'] (.auto .ltr) =
      .ok analysis := by
    have hcount : paragraphCount ['א', 'b', ' ', '世', 'ב'] = 1 := by decide +kernel
    have hresolve : ParagraphBase.resolve (.auto .ltr) ['א', 'b', ' ', '世', 'ב'] = .rtl := by
      decide +kernel
    unfold Classifier.unicode
    dsimp only
    rw [if_neg (by decide), if_pos hcount, hresolve]
  have horders : view.frame.OrdersLine source 0 [upper, lower] 1 analysis order :=
    { isHeadOf := ⟨by decide, .inl (by decide), hleads⟩
      isTail := .more rfl rfl (.last rfl (.inl rfl))
      isAvailable := rfl
      analyze_eq := ⟨_, hcall, hanalysis⟩
      isMixed := by decide +kernel
      reorder_eq := ⟨lower, rfl, by decide +kernel⟩ }
  obtain ⟨map, units, hmap, hunits, htogether, hreading⟩ :=
    units_recompute hview hclassifier source 1 (by decide) rfl
  have hread := hreading 0 [upper, lower] analysis order horders
  obtain rfl := hunits.unique (Line.listsUnits_ofRow view.frame.width lower)
  refine ⟨hview, hclassifier, by decide, rfl, horders, map, hmap, htogether (1, 2) (by decide), ?_⟩
  exact hread.trans (by decide)

end Viewport

end BidiViewport
