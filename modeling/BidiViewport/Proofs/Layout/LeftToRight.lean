import BidiViewport.Proofs.Bidi.Levels
import BidiViewport.Proofs.Layout.Analyses
import BidiViewport.Proofs.Layout.Isolation
import BidiViewport.Proofs.Layout.OwnGlyphs
import BidiViewport.Proofs.Layout.SingleDirection

/-!
# Rows that run from left to right

A row of an explicit left-to-right paragraph has every column at its own place and no glyphs
(`RowLayout.RunsStraight`).  So has a row of a paragraph that was given to the bidirectional
algorithm and got level 0 for all its characters (`Frame.ResolvesToZero`): its direction is left to
right because no level is below that of the paragraph, and letters are joined on odd levels only.

`Frame.ReadsLeftToRight.exists_layout` finds these layouts in a pass that begins anywhere among the
rows.
-/

namespace BidiViewport

/-! ## Level 0 -/

/-- The levels of an analysis mean what they say: there is one for each character, none is below
that of the paragraph, and a paragraph on its own level only is known as such. -/
structure Classifier.ReportsLevels (c : Classifier) : Prop where
  size_levels : ∀ {text : List Char} {base : ParagraphBase} {a : Analysis},
    c.analyze text base = .ok a → a.levels.size = text.length
  level_le : ∀ {text : List Char} {base : ParagraphBase} {a : Analysis},
    c.analyze text base = .ok a → ∀ level ∈ a.levels, a.direction.level ≤ level
  isSingle_iff : ∀ {text : List Char} {base : ParagraphBase} {a : Analysis},
    c.analyze text base = .ok a → (a.isSingle = true ↔ a.HasOneLevel)

theorem Classifier.reportsLevels_unicode : Classifier.unicode.ReportsLevels := by
  refine ⟨fun h => (wellFormed_unicode _ _ _ h).size_levels, ?_, ordersSingle_unicode.isSingle_iff⟩
  intro text base a h level hlevel
  obtain rfl := eq_analysis_of_analyze h
  have hmem : level ∈ paragraphLevels (base.resolve text).level text :=
    List.mem_toArray.1 hlevel
  exact le_of_mem_paragraphLevels hmem

/-- A text on level 0 is a left-to-right paragraph in a single direction. -/
theorem Classifier.ReportsLevels.single_of_zero {c : Classifier} (h : c.ReportsLevels)
    {text : List Char} {base : ParagraphBase} {a : Analysis}
    (hanalysis : c.analyze text base = .ok a) (htext : text ≠ [])
    (hzero : ∀ level ∈ a.levels, level = 0) :
    a.direction = .ltr ∧ a.isSingle = true := by
  have hsome : 0 < a.levels.size := by
    rw [h.size_levels hanalysis]
    exact List.length_pos_of_ne_nil htext
  have hfirst := Array.getElem_mem hsome
  have hdirection : a.direction = .ltr := by
    have hle := h.level_le hanalysis _ hfirst
    rw [hzero _ hfirst] at hle
    cases hrtl : a.direction with
    | ltr => rfl
    | rtl =>
      rw [hrtl] at hle
      cases hle
  refine ⟨hdirection, (h.isSingle_iff hanalysis).2 fun level hlevel => ?_⟩
  rw [hzero level hlevel, hdirection]
  rfl

namespace RowLayout

/-- Every column is at its own place from left to right, and none has a glyph. -/
structure RunsStraight (layout : RowLayout) (width : Nat) : Prop where
  direction : layout.direction = .ltr
  isPlain : layout.IsPlain width
  glyphs : layout.glyphs = []

namespace RunsStraight

variable {layout : RowLayout} {width : Nat}

theorem straight (width : Nat) : RunsStraight { direction := .ltr } width :=
  ⟨rfl, .inl rfl, rfl⟩

theorem toLogical_eq (h : layout.RunsStraight width) (visual : Int) :
    layout.toLogical width visual = visual := by
  rw [h.isPlain.toLogical_eq, h.direction]
  rfl

theorem visualDirection_eq (h : layout.RunsStraight width) (visual : Int) :
    layout.visualDirection width visual = .ltr := by
  rw [h.isPlain.visualDirection_eq, h.direction]

theorem glyph?_eq (h : layout.RunsStraight width) (visual : Int) :
    layout.glyph? width visual = none :=
  glyph?_of_glyphs_eq_nil h.glyphs visual

end RunsStraight

end RowLayout

theorem DirectionFlags.of_explicit_ltr {flags : DirectionFlags} (h : flags.mode = .explicit .ltr) :
    flags.implicit = false ∧ flags.rtl = false := by
  obtain ⟨implicit, rtl, auto, boxMirror⟩ := flags
  cases implicit <;> cases rtl <;> cases auto <;> first | exact ⟨rfl, rfl⟩ | cases h

namespace Frame

variable {frame : Frame} {source : RowSource} {first i : Nat} {rows : List Row} {content : Row}

/-! ## Paragraphs on level 0 -/

/-- The paragraph with these rows asks for the bidirectional algorithm, is within the limit, and has
level 0 for each of its characters. -/
structure ResolvesToZero (frame : Frame) (rows : List Row) : Prop where
  implicit : ∃ content, rows.head? = some content ∧ content.flags.implicit = true
  length_le : rows.length ≤ frame.limit
  isAvailable : frame.classifier.isAvailable = true
  levels : ∀ call, frame.call? rows = some call → ∃ analysis,
    frame.classifier.analyze call.text call.base = .ok analysis ∧
      ∀ level ∈ analysis.levels, level = 0

theorem ResolvesToZero.exists_call (h : frame.ResolvesToZero rows)
    (htext : rows.flatMap (Row.analysedText frame.width) ≠ []) : ∃ base,
      frame.call? rows = some ⟨rows.flatMap (Row.analysedText frame.width), base⟩ := by
  obtain ⟨content, hhead, himplicit⟩ := h.implicit
  obtain ⟨base, hbase⟩ := DirectionFlags.exists_base? himplicit
  refine ⟨base, ?_⟩
  unfold call?
  rw [hhead, Option.bind_some, hbase, Option.bind_some]
  exact if_pos ⟨h.length_le, htext⟩

theorem ResolvesToZero.runsStraight (h : frame.ResolvesToZero rows)
    (hclassifier : frame.classifier.ReportsLevels)
    (htext : rows.flatMap (Row.analysedText frame.width) ≠ []) {layout : RowLayout}
    (hlayout : layout ∈ frame.chainLayouts rows) : layout.RunsStraight frame.width := by
  obtain ⟨base, hcall⟩ := h.exists_call htext
  obtain ⟨analysis, hanalysis, hzero⟩ := h.levels _ hcall
  obtain ⟨hdirection, hsingle⟩ := hclassifier.single_of_zero hanalysis htext hzero
  have hnone : frame.glyphs ((rows.map (Line.ofRow frame.width)).flatMap Line.text) analysis =
      [] := by
    refine List.eq_nil_iff_forall_not_mem.2 fun placed hplaced => ?_
    obtain ⟨-, ⟨level, hlevel, hodd⟩, -⟩ := mem_glyphs_iff.1 hplaced
    rw [hzero level hlevel] at hodd
    cases hodd
  unfold chainLayouts at hlayout
  rw [judge_of_call? h.isAvailable hcall hanalysis] at hlayout
  obtain ⟨result, hresult, rfl⟩ := List.mem_map.1 hlayout
  obtain ⟨i, hi⟩ := List.mem_iff_getElem?.1 hresult
  obtain ⟨line, own, -, hline⟩ := exists_line_of_orderedLines hi
  cases result with
  | error error =>
    have hmixed := Line.isSingle_of_layout_error hline.symm
    rw [hsingle] at hmixed
    cases hmixed
  | ok layout =>
    refine ⟨?_, ?_, ?_⟩
    · exact (Line.layout_ok hline.symm).1.trans hdirection
    · obtain ⟨-, rfl⟩ | ⟨-, rfl⟩ | ⟨_, hmixed, -, -⟩ := Line.layout_cases hline.symm
      · exact .inl rfl
      · exact .inr ⟨own, rfl⟩
      · rw [hsingle] at hmixed
        cases hmixed
    · refine List.eq_nil_iff_forall_not_mem.2 fun placed hplaced => ?_
      obtain ⟨k, hk⟩ := Line.glyphs_of_mem_layoutsFrom hresult placed hplaced
      rw [hnone] at hk
      cases hk

/-! ## Rows in a pass -/

/-- These rows, from the row `first` on, are read from left to right: they are explicit, or they
end a paragraph that gets level 0 for all its characters. -/
inductive ReadsLeftToRight (frame : Frame) (source : RowSource) (first : Nat) (rows : List Row) :
    Prop
  | explicit (hmode : ∀ row ∈ rows, row.flags.mode = .explicit .ltr)
  | implicit {head : Nat} {above : List Row} (hclassifier : frame.classifier.ReportsLevels)
      (himplicit : ∀ row ∈ rows, row.flags.implicit = true)
      (hwhole : Chain.IsWhole source head (above ++ rows)) (hfirst : head + above.length = first)
      (hzero : frame.ResolvesToZero (above ++ rows))

/-- The visible ones of the rows run straight, if no visible row above them is in their
paragraph. -/
theorem ReadsLeftToRight.exists_layout (h : frame.ReadsLeftToRight source first rows)
    (hsource : source.StartsAtFirst) (htail : Chain.IsTail source first rows)
    (hbegin : first ≤ frame.start ∨ ∀ above, above + 1 = first → source.isWrapped above = false)
    (hi : rows[i]? = some content) (htext : content.analysedText frame.width ≠ [])
    (hshows : frame.shows (first + i) = true) :
    ∃ layout, (frame.pass source).layouts[first + i - frame.start]? = some layout ∧
      layout.RunsStraight frame.width := by
  have hvisible := shows_iff.1 hshows
  obtain ⟨hlt, rfl⟩ := List.getElem?_eq_some_iff.1 hi
  cases h with
  | explicit hmode =>
    have hexplicit : ∀ row ∈ rows, row.flags.implicit = false ∧ row.flags.rtl = false :=
      fun row hrow => DirectionFlags.of_explicit_ltr (hmode row hrow)
    have hlayout : (frame.pass source).layouts[first + i - frame.start]? =
        (frame.chainLayouts rows)[i]? := by
      rcases Nat.le_total first frame.start with hinside | habove
      · obtain ⟨k, hstart⟩ := Nat.exists_eq_add_of_le hinside
        exact getElem?_layouts_of_explicit htail hexplicit hlt hstart hshows
      · rcases hbegin with hinside | hends
        · obtain ⟨k, hstart⟩ := Nat.exists_eq_add_of_le hinside
          exact getElem?_layouts_of_explicit htail hexplicit hlt hstart hshows
        · exact getElem?_layouts_of_first_le ⟨htail, hends⟩
            (Nat.le_trans (frame.first_le source) habove) hlt hshows
    rw [hlayout, chainLayouts_explicit (List.ne_nil_of_length_pos (by omega)) hexplicit,
      List.getElem?_map, hi]
    exact ⟨_, rfl, .straight _⟩
  | @implicit head above hclassifier himplicit hwhole hfirst hzero =>
    subst hfirst
    have hlength : above.length + i < (above ++ rows).length := by
      rw [List.length_append]
      omega
    have hpass : frame.first source ≤ head := by
      rcases Nat.lt_or_ge frame.start (head + above.length) with habove | hinside
      · -- Then the paragraph begins with the first one of the rows.
        have hends := hbegin.resolve_left (Nat.not_le.2 habove)
        cases above with
        | nil => exact Nat.le_trans (frame.first_le source) (Nat.le_of_lt habove)
        | cons row rest =>
          have hwrapped : source.isWrapped (head + rest.length) = true :=
            hwhole.isTail.isWrapped_add (by simp; omega)
          rw [hends (head + rest.length) (by simp; omega)] at hwrapped
          cases hwrapped
      · obtain ⟨k, hstart⟩ := Nat.exists_eq_add_of_le hinside
        have hk : k < rows.length := by omega
        have hrow : source.rowAt frame.start = some rows[k] := by
          rw [hstart]
          exact htail.rowAt_add (List.getElem?_eq_getElem hk)
        refine Nat.le_of_eq (first_eq_of_seeksHead hsource hwhole hzero.length_le ?_
          (i := above.length + k) ?_ ?_)
        · rw [seeksHead_of_rowAt hrow]
          exact himplicit _ (List.getElem_mem hk)
        · rw [List.length_append]
          omega
        · rw [hstart, Nat.add_assoc]
    have hlayout := getElem?_layouts_of_first_le hwhole hpass hlength (by rwa [← Nat.add_assoc])
    rw [← Nat.add_assoc] at hlayout
    obtain ⟨layout, hsome⟩ := Frame.exists_layout source hshows
    refine ⟨layout, hsome, hzero.runsStraight hclassifier ?_
      (List.mem_of_getElem? (hlayout.symm.trans hsome))⟩
    have hmem : rows[i] ∈ above ++ rows := List.mem_append_right _ (List.getElem_mem hlt)
    intro hnone
    exact htext (List.flatMap_eq_nil_iff.1 hnone _ hmem)

end Frame

end BidiViewport
