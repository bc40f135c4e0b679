import BidiViewport.Classifier.Unicode
import BidiViewport.Proofs.Layout.Grouping
import BidiViewport.Proofs.Layout.Placement

/-!
# Analyses that do not fail

The bidirectional algorithm refuses texts that are no paragraph, and lines outside of their
paragraph.  A layout pass asks it about neither, whatever the cells of the rows hold.

* The text of a chain has no paragraph separators (`Line.isParagraph_of_ne_nil`), and an empty
  one is not asked about (`Frame.isParagraph_of_call?`), so every call has an answer
  (`Classifier.analyze_unicode`).
* The lines of a paragraph are parts of its text, so all of them are ordered
  (`Frame.exists_ok_of_mem_orderedLines`).
* What is left is the length of the chain: with the bidirectional algorithm it alone decides
  whether a paragraph that wants an analysis gets one (`Frame.verdict_unicode`).
-/

namespace BidiViewport

/-! ## Texts that are one paragraph -/

/-- The text is one paragraph: it has characters, none of which separates paragraphs. -/
structure IsParagraph (text : List Char) : Prop where
  ne_nil : text ≠ []
  isParagraphSeparator : ∀ c ∈ text, isParagraphSeparator c = false

theorem IsParagraph.paragraphCount {text : List Char} (h : IsParagraph text) :
    paragraphCount text = 1 := by
  have hseparators : text.countP BidiViewport.isParagraphSeparator = 0 :=
    List.countP_eq_zero.2 fun c hc => by simp [h.isParagraphSeparator c hc]
  have hlast := h.isParagraphSeparator _ (List.getLast_mem h.ne_nil)
  unfold BidiViewport.paragraphCount
  rw [hseparators, List.getLast?_eq_some_getLast h.ne_nil]
  dsimp only
  rw [hlast]
  rfl

theorem CellSpan.isParagraphSeparator_analysed (c : Char) :
    isParagraphSeparator (analysed c) = false := by
  unfold analysed
  by_cases h : isParagraphSeparator c = true
  · rw [if_pos h]
    rfl
  · rw [if_neg h]
    simpa using h

theorem CellSpan.isParagraphSeparator_of_mem_leadersFrom {column : Nat} {cells : List Cell}
    {span : CellSpan} (h : span ∈ leadersFrom column cells) :
    isParagraphSeparator span.char = false := by
  induction cells generalizing column with
  | nil => cases h
  | cons cell rest ih =>
    cases cell with
    | leader base marks columns =>
      rcases List.mem_cons.1 h with rfl | hlater
      · exact isParagraphSeparator_analysed base
      · exact ih hlater
    | fragment columns => exact ih h

/-- Neither a leader nor a fragment without one stands for a paragraph separator. -/
theorem Line.isParagraphSeparator_of_mem_text {width : Nat} {row : Row} {c : Char}
    (h : c ∈ (ofRow width row).text) : isParagraphSeparator c = false := by
  obtain ⟨span, hspan, rfl⟩ := List.mem_map.1 h
  rcases List.mem_append.1 hspan with horphan | hleader
  · obtain ⟨column, -, rfl⟩ := List.mem_map.1 horphan
    rfl
  · exact CellSpan.isParagraphSeparator_of_mem_leadersFrom hleader

/-- Whatever the cells of some rows hold, the rows are one paragraph if they hold anything. -/
theorem Line.isParagraph_of_ne_nil {width : Nat} {rows : List Row}
    (h : (rows.map (ofRow width)).flatMap text ≠ []) :
    IsParagraph ((rows.map (ofRow width)).flatMap text) := by
  refine ⟨h, fun c hc => ?_⟩
  obtain ⟨line, hline, hc⟩ := List.mem_flatMap.1 hc
  obtain ⟨row, -, rfl⟩ := List.mem_map.1 hline
  exact isParagraphSeparator_of_mem_text hc

/-! ## Answers of the bidirectional algorithm -/

namespace Classifier

theorem analyze_unicode {text : List Char} (h : IsParagraph text) (base : ParagraphBase) :
    unicode.analyze text base = .ok (analysis (base.resolve text) text) := by
  have hempty : text.isEmpty = false := by simpa using h.ne_nil
  unfold unicode
  dsimp only
  rw [if_neg (by rw [hempty]; exact Bool.false_ne_true), if_pos h.paragraphCount]

/-- Every part of the text has an order. -/
theorem exists_reorder (direction : Direction) {text : List Char} {start stop : Nat}
    (hle : start ≤ stop) (hstop : stop ≤ text.length) :
    ∃ order, (analysis direction text).reorder start stop = .ok order := by
  have hsize : (paragraphLevels direction.level text).toArray.size = text.length := by simp
  refine ⟨_, if_neg ?_⟩
  rw [hsize]
  omega

end Classifier

theorem DirectionFlags.exists_base? {flags : DirectionFlags} (h : flags.implicit = true) :
    ∃ base, flags.mode.base? = some base := by
  unfold mode
  rw [h]
  cases flags.auto with
  | false => exact ⟨_, rfl⟩
  | true => exact ⟨_, rfl⟩

namespace Frame

variable {frame : Frame} {source : RowSource} {row : Nat}

/-- Whatever the classifier is, it is asked about a text that is one paragraph. -/
theorem isParagraph_of_call? {call : AnalysisCall}
    (h : (frame.prepare source row).call? = some call) : IsParagraph call.text := by
  have hprepares := frame.prepares source row
  generalize frame.prepare source row = prepared at h hprepares
  cases hprepares with
  | missing | explicit | unavailable | overlong | blank => cases h
  | failed hasks _ htext | analysed hasks _ htext =>
    cases h
    obtain rfl := hasks.lines_eq
    exact Line.isParagraph_of_ne_nil htext

theorem isParagraph_of_mem_calls {call : AnalysisCall} (h : call ∈ (frame.pass source).calls) :
    IsParagraph call.text := by
  obtain ⟨paragraph, hparagraph, hcall⟩ := List.mem_filterMap.1 h
  obtain ⟨row, rfl⟩ := exists_row_of_mem_paragraphsFrom hparagraph
  rw [call?_layoutParagraph] at hcall
  exact isParagraph_of_call? hcall

/-- All parts of an analysed text have an order, so all lines of the paragraph do. -/
theorem exists_ok_of_mem_orderedLines (hclassifier : frame.classifier = .unicode)
    {lines : List Line} {analysis : Analysis}
    (hverdict : (frame.prepare source row).verdict = .analysed lines analysis)
    {result : Except ClassifyError RowLayout} (h : result ∈ frame.orderedLines lines analysis) :
    ∃ layout, result = .ok layout := by
  obtain ⟨-, -, base, hanalysis⟩ := analysed_of_prepare hverdict
  rw [hclassifier] at hanalysis
  obtain rfl := Classifier.eq_analysis_of_analyze hanalysis
  obtain ⟨i, hi⟩ := List.mem_iff_getElem?.1 h
  obtain ⟨line, own, hline, rfl⟩ := exists_line_of_orderedLines hi
  obtain ⟨order, horder⟩ := Classifier.exists_reorder
    (base.resolve (lines.flatMap Line.text)) (Nat.le_add_right _ _)
    (Line.length_text_take_add hline)
  unfold Line.layout
  split
  · exact ⟨_, rfl⟩
  · rw [horder]
    exact ⟨_, rfl⟩

/-- What the bidirectional algorithm makes of a paragraph that asks for it. -/
theorem verdict_unicode (hclassifier : frame.classifier = .unicode) {content : Row}
    {base : ParagraphBase} (hrow : source.rowAt row = some content)
    (hbase : content.flags.mode.base? = some base) :
    let lines := (Chain.tail source frame.limit row).rows.map (Line.ofRow frame.width)
    let text := lines.flatMap Line.text
    (frame.prepare source row).verdict =
      if Chain.Exceeds source frame.limit row then .straight content.flags.declared .overlong
      else if text = [] then .straight content.flags.declared .blank
      else .analysed lines (Classifier.analysis (base.resolve text) text) := by
  intro lines text
  unfold prepare
  simp only [ParagraphBuffer.chars_read, ParagraphBuffer.lines_read]
  rw [hrow]
  dsimp only
  rw [hbase, hclassifier]
  dsimp only
  rw [if_neg (by exact Bool.false_ne_true)]
  by_cases hlong : Chain.Exceeds source frame.limit row
  · rw [if_pos hlong, if_pos (Chain.isOverlong_iff.2 hlong)]
  · rw [if_neg hlong, if_neg (mt Chain.isOverlong_iff.1 hlong)]
    by_cases hblank : text = []
    · rw [if_pos hblank, if_pos (List.isEmpty_iff.2 hblank)]
    · rw [if_neg hblank, if_neg (mt List.isEmpty_iff.1 hblank)]
      dsimp only
      rw [Classifier.analyze_unicode (Line.isParagraph_of_ne_nil hblank)]

end Frame

end BidiViewport
