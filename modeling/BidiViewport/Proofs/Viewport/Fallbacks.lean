import BidiViewport.Proofs.Layout.Analyses
import BidiViewport.Proofs.Layout.Isolation
import BidiViewport.Proofs.Viewport.History

/-!
# Fallbacks with the bidirectional algorithm

With the bidirectional algorithm as its classifier nothing that a viewport asks is ever refused,
whatever the cells of its rows hold.  The only fallback left is that of a chain with more rows
than the limit, and the viewport counts exactly these (`Viewport.fallbacks_recompute`).  Any
other chain that asks for the algorithm and has a character is drawn as the algorithm says, also
when it just reaches the limit.
-/

namespace BidiViewport

namespace Frame

variable {frame : Frame} {source : RowSource} {row : Nat}

/-- The chain from `row` on asks for the bidirectional algorithm and has too many rows for
it. -/
def isOverlong (frame : Frame) (source : RowSource) (row : Nat) : Bool :=
  (source.rowAt row).any (·.flags.implicit) && decide (Chain.Exceeds source frame.limit row)

theorem isOverlong_of_rowAt {content : Row} (h : source.rowAt row = some content) :
    frame.isOverlong source row =
      (content.flags.implicit && decide (Chain.Exceeds source frame.limit row)) := by
  unfold isOverlong
  rw [h, Option.any_some]

theorem isOverlong_of_missing (h : source.rowAt row = none) :
    frame.isOverlong source row = false := by
  unfold isOverlong
  rw [h, Option.any_none, Bool.false_and]

/-- With the bidirectional algorithm a chain falls back only because of its length. -/
theorem isFallback_unicode (hclassifier : frame.classifier = .unicode) (source : RowSource)
    (row : Nat) : (frame.layoutParagraph source row).isFallback = frame.isOverlong source row := by
  rw [isFallback_layoutParagraph]
  cases hrow : source.rowAt row with
  | none =>
    rw [isOverlong_of_missing hrow, frame.verdict_of_missing hrow]
    rfl
  | some content =>
    rw [isOverlong_of_rowAt hrow]
    cases himplicit : content.flags.implicit with
    | false =>
      rw [frame.verdict_of_explicit hrow himplicit]
      rfl
    | true =>
      obtain ⟨base, hbase⟩ := DirectionFlags.exists_base? himplicit
      rw [verdict_unicode hclassifier hrow hbase]
      by_cases hlong : Chain.Exceeds source frame.limit row
      · rw [if_pos hlong, decide_eq_true hlong]
        rfl
      · rw [if_neg hlong, decide_eq_false hlong]
        split <;> rfl

theorem countP_isFallback (hclassifier : frame.classifier = .unicode) (source : RowSource)
    (row : Nat) : (frame.paragraphsFrom source row).countP (·.isFallback) =
      (Chain.heads source row frame.stop).countP (frame.isOverlong source) := by
  induction row using paragraphs_induction frame source with
  | next row hrow ih =>
    have hcut := Chain.heads_eq_append hrow (frame.length_layouts_pos source hrow)
      (fun _ => isWrapped_of_layouts) (layouts_end hrow)
    rw [paragraphsFrom_of_lt hrow, List.countP_cons, hcut, List.countP_append, ih,
      isFallback_unicode hclassifier, Nat.add_comm]
    congr 1
    cases hcontent : source.rowAt row with
    | none =>
      rw [isOverlong_of_missing hcontent]
      rfl
    | some content => simp
  | done row hrow =>
    rw [paragraphsFrom_of_le hrow, Chain.heads_of_le hrow]
    rfl

theorem verdict_of_isOverlong (hclassifier : frame.classifier = .unicode) {content : Row}
    (hrow : source.rowAt row = some content) (h : frame.isOverlong source row = true) :
    (frame.prepare source row).verdict = .straight content.flags.declared .overlong := by
  rw [isOverlong_of_rowAt hrow, Bool.and_eq_true, decide_eq_true_iff] at h
  obtain ⟨base, hbase⟩ := DirectionFlags.exists_base? h.1
  rw [verdict_unicode hclassifier hrow hbase, if_pos h.2]

/-- The rows of a chain with a call to make have their layouts from the answer. -/
theorem IsHeadOf.layout_of_call? {head : Nat} {rows : List Row} {call : AnalysisCall}
    (h : frame.IsHeadOf source head row) (hclassifier : frame.classifier = .unicode)
    (hshows : frame.shows row = true) (hrow : (source.rowAt row).isSome = true)
    (hrows : Chain.IsTail source head rows) (hcall : frame.call? rows = some call) :
    ∃ analysis layout, frame.classifier.analyze call.text call.base = .ok analysis ∧
      (frame.orderedLines (rows.map (Line.ofRow frame.width)) analysis)[row - head]? =
        some (.ok layout) ∧
      (frame.pass source).layouts[row - frame.start]? = some layout := by
  have havailable : frame.classifier.isAvailable = true := by
    rw [hclassifier]
    rfl
  obtain ⟨reads, hprepare⟩ := @prepare_of_isTail frame _ _ _ hrows
  have hmade : (frame.prepare source head).call? = some call := by
    rw [hprepare, havailable]
    exact hcall
  have hanalysis : frame.classifier.analyze call.text call.base =
      .ok (Classifier.analysis (call.base.resolve call.text) call.text) := by
    rw [hclassifier]
    exact Classifier.analyze_unicode (isParagraph_of_call? hmade) call.base
  have hverdict := (frame.verdict_prepare hrows).trans (judge_of_call? havailable hcall hanalysis)
  obtain ⟨-, hsame⟩ := h.takes hshows hrow
  obtain ⟨layout, hlayout⟩ := Frame.exists_layout source hshows
  rw [hlayout, layouts_analysed hverdict, List.getElem?_map] at hsame
  obtain ⟨result, hresult, rfl⟩ := Option.map_eq_some_iff.1 hsame.symm
  obtain ⟨layout, rfl⟩ := exists_ok_of_mem_orderedLines hclassifier hverdict
    (List.mem_of_getElem? hresult)
  exact ⟨_, layout, hanalysis, hresult, hlayout⟩

end Frame

namespace Viewport

/-- No analysis and no visual order that a pass asks of the bidirectional algorithm is refused.
The fallbacks that it counts are the chains with more rows than the limit; their visible rows
are straight in the direction that their first row declares.  Every chain with a call to make is
drawn from the answer to it. -/
theorem fallbacks_recompute {view : Viewport} (hview : view.IsReachable)
    (hclassifier : view.frame.classifier = .unicode) (source : RowSource) :
    let frame := view.frame
    (∀ call ∈ (frame.pass source).calls, ∃ analysis,
      frame.classifier.analyze call.text call.base = .ok analysis) ∧
    (∀ head lines analysis, (frame.prepare source head).verdict = .analysed lines analysis →
      ∀ result ∈ frame.orderedLines lines analysis, ∃ layout, result = .ok layout) ∧
    (view.recompute source).stats.fallbacks =
      (Chain.heads source (frame.first source) frame.stop).countP (frame.isOverlong source) ∧
    ∀ head row, frame.IsHeadOf source head row → frame.shows row = true →
      (source.rowAt row).isSome = true → ∃ map, (view.recompute source).rowMap? row = some map ∧
        (∀ content, source.rowAt head = some content → frame.isOverlong source head = true →
          map.Shows { direction := content.flags.declared }) ∧
        ∀ rows call, Chain.IsTail source head rows → frame.call? rows = some call →
          ∃ analysis layout, frame.classifier.analyze call.text call.base = .ok analysis ∧
            (frame.orderedLines (rows.map (Line.ofRow frame.width)) analysis)[row - head]? =
              some (.ok layout) ∧ map.Shows layout := by
  intro frame
  have hcurrent := hview.isSound.isCurrent_recompute source
  refine ⟨fun call hcall => ?_, fun head lines analysis hverdict result hresult => ?_, ?_,
    fun head row hhead hshows hrow => ?_⟩
  · rw [hclassifier]
    exact ⟨_, Classifier.analyze_unicode (Frame.isParagraph_of_mem_calls hcall) call.base⟩
  · exact Frame.exists_ok_of_mem_orderedLines hclassifier hverdict hresult
  · exact Frame.countP_isFallback hclassifier source (frame.first source)
  · obtain ⟨map, layout, hmap, hlayout, -, hshown⟩ := hcurrent.rowMap? row hshows
    have hwf : view.frame.classifier.WellFormed := hclassifier ▸ Classifier.wellFormed_unicode
    have hshown : map.Shows layout :=
      hshown (Frame.completes_of_wellFormed hwf source layout (List.mem_of_getElem? hlayout))
    refine ⟨map, hmap, fun content hcontent hlong => ?_, fun rows call hrows hcall => ?_⟩
    · have hverdict := Frame.verdict_of_isOverlong hclassifier hcontent hlong
      obtain rfl := Option.some.inj
        (hlayout.symm.trans (hhead.layout_of_straight hshows hverdict))
      exact hshown
    · obtain ⟨analysis, other, hanalysis, hother, hsame⟩ :=
        hhead.layout_of_call? hclassifier hshows hrow hrows hcall
      obtain rfl := Option.some.inj (hlayout.symm.trans hsame)
      exact ⟨analysis, layout, hanalysis, hother, hshown⟩

/-- A chain of one row more than the limit, its first row above the viewport, and below it a chain
of as many rows as the limit that holds a paragraph separator and half a wide character. -/
theorem fallbacks_recompute_boundary :
    let flags : DirectionFlags := { implicit := true, auto := true }
    let long : Row := { cells := #[.leader 'x' [] 1], softWrapped := true,
                        flags := { implicit := true, rtl := true } }
    let last : Row := { cells := #[.leader 'y' [] 1] }
    let upper : Row := { cells := #[.leader '\n' [] 1, .leader 'א' [] 1], softWrapped := true, flags }
    let lower : Row := { cells := #[.fragment 2, .leader 'b' [] 1], flags }
    let source := ((Scrollback.empty 5).extend [long, long, last, upper, lower]).source
    let view := (new {} .unicode).replay [(source, .set (.width 3)), (source, .set (.rows 1 4)),
      (source, .set (.limit 2))]
    view.IsReachable ∧ view.frame.classifier = .unicode ∧ view.frame.IsHeadOf source 0 1 ∧
      view.frame.IsHeadOf source 3 4 ∧ Chain.IsTail source 3 [upper, lower] ∧
      (view.recompute source).stats.fallbacks = 1 ∧
      (∃ map, (view.recompute source).rowMap? 1 = some map ∧ map.Shows { direction := .rtl }) ∧
      ∃ map analysis layout, (view.recompute source).rowMap? 4 = some map ∧
        view.frame.classifier.analyze [' ', 'א', ' ', 'b'] (.auto .ltr) = .ok analysis ∧
        (view.frame.orderedLines ([upper, lower].map (Line.ofRow 3)) analysis)[1]? =
          some (.ok layout) ∧ map.Shows layout := by
  intro flags long last upper lower source view
  have hview : view.IsReachable := ⟨{}, .unicode, _, rfl⟩
  have hclassifier : view.frame.classifier = .unicode := rfl
  have hlong : view.frame.IsHeadOf source 0 1 :=
    ⟨by decide, .inl (by decide), (Chain.Leads.refl source 0).succ (by decide)⟩
  have hshort : view.frame.IsHeadOf source 3 4 :=
    ⟨by decide, .inr (by decide), (Chain.Leads.refl source 3).succ (by decide)⟩
  have htail : Chain.IsTail source 3 [upper, lower] :=
    .more (by decide) rfl (.last (by decide) (.inl rfl))
  have hcall : view.frame.call? [upper, lower] = some ⟨[' ', 'א', ' ', 'b'], .auto .ltr⟩ := by
    decide +kernel
  obtain ⟨-, -, hfallbacks, hrows⟩ := fallbacks_recompute hview hclassifier source
  obtain ⟨map₁, hmap₁, hoverlong, -⟩ := hrows 0 1 hlong (by decide) (by decide)
  obtain ⟨map₄, hmap₄, -, hordered⟩ := hrows 3 4 hshort (by decide) (by decide)
  obtain ⟨analysis, layout, hanalysis, hlayout, hshown⟩ := hordered _ _ htail hcall
  exact ⟨hview, hclassifier, hlong, hshort, htail, hfallbacks.trans (by decide +kernel),
    ⟨map₁, hmap₁, hoverlong long (by decide) (by decide)⟩, map₄, analysis, layout, hmap₄, hanalysis,
    hlayout, hshown⟩

end Viewport

end BidiViewport
