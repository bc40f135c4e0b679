import BidiViewport.Proofs.Layout.Chains
import BidiViewport.Layout.Paragraph

/-!
# What becomes of a chain

A paragraph is read row by row, up to a limit, and decided upon on the way.  Here both
decisions are said of the whole chain, with no reading and no position:

* `Frame.judge`: how its rows are laid out.
* `Frame.call?`: the text that an available classifier is asked to analyse, with
  `Row.analysedText` for the text of a row.

`Frame.prepare_of_isTail`: the paragraph that begins at a row comes to exactly these
decisions about the chain from there on.
-/

namespace BidiViewport

/-! ## The text of a chain -/

/-- The character that a cell stands for in the analysed text.  A fragment belongs to the
character of its leader. -/
def Cell.analysedChar? : Cell → Option Char
  | .leader base _ _ => some (if BidiClass.of base = .B then ' ' else base)
  | .fragment _ => none

/-- The analysed text of the first `width` cells of a row.  Each fragment without a leader
is a space. -/
def Row.analysedText (width : Nat) (row : Row) : List Char :=
  let cells := row.cells.toList.take width
  List.replicate (cells.takeWhile Cell.isFragment).length ' ' ++ cells.filterMap Cell.analysedChar?

namespace CellSpan

theorem analysed_eq (c : Char) : analysed c = if BidiClass.of c = .B then ' ' else c := by
  unfold analysed
  by_cases h : isParagraphSeparator c = true
  · rw [if_pos h, if_pos ((BidiClass.of_eq_B_iff c).2 h)]
  · rw [if_neg h, if_neg (mt (BidiClass.of_eq_B_iff c).1 h)]

theorem map_char_leadersFrom (column : Nat) (cells : List Cell) :
    (leadersFrom column cells).map CellSpan.char = cells.filterMap Cell.analysedChar? := by
  induction cells generalizing column with
  | nil => rfl
  | cons cell rest ih =>
    cases cell with
    | leader base marks columns =>
      have hchar : (Cell.leader base marks columns).analysedChar? = some (analysed base) :=
        congrArg some (analysed_eq base).symm
      rw [leadersFrom, List.map_cons, ih, List.filterMap_cons_some hchar]
    | fragment columns =>
      have hchar : (Cell.fragment columns).analysedChar? = none := rfl
      rw [leadersFrom, ih, List.filterMap_cons_none hchar]

end CellSpan

theorem Line.text_ofRow (width : Nat) (row : Row) :
    (Line.ofRow width row).text = row.analysedText width := by
  have horphans (count : Nat) : ((List.range count).map fun column =>
      (⟨' ', column, 1⟩ : CellSpan)).map CellSpan.char = List.replicate count ' ' := by
    rw [List.map_map, List.eq_replicate_iff, List.length_map, List.length_range]
    refine ⟨rfl, fun c hc => ?_⟩
    obtain ⟨_, _, rfl⟩ := List.mem_map.1 hc
    rfl
  unfold Line.text Line.ofRow CellSpan.ofCells Row.analysedText
  rw [List.map_append, horphans, CellSpan.map_char_leadersFrom]
  rfl

theorem Line.flatMap_text_ofRow (width : Nat) (rows : List Row) :
    (rows.map (Line.ofRow width)).flatMap Line.text = rows.flatMap (Row.analysedText width) := by
  rw [List.flatMap_map]
  exact congrArg (rows.flatMap ·) (funext (Line.text_ofRow width))

/-! ## Decisions -/

namespace Frame

/-- How a paragraph with these rows is laid out. -/
def judge (frame : Frame) : List Row → Verdict
  | [] => .straight .ltr .missing
  | head :: rest =>
    let rows := head :: rest
    match head.flags.mode.base? with
    | none => .straight head.flags.declared .explicit
    | some base =>
      if frame.classifier.isAvailable = false then .straight head.flags.declared .unavailable
      else if frame.limit < rows.length then .straight head.flags.declared .overlong
      else if rows.flatMap (Row.analysedText frame.width) = [] then
        .straight head.flags.declared .blank
      else
        match frame.classifier.analyze (rows.flatMap (Row.analysedText frame.width)) base with
        | .ok analysis => .analysed (rows.map (Line.ofRow frame.width)) analysis
        | .error error => .straight head.flags.declared (.failed error)

/-- The call that a paragraph with these rows makes, if it makes one: its first row asks
for the bidirectional algorithm, it has no more rows than the limit, and it has a
character. -/
def call? (frame : Frame) (rows : List Row) : Option AnalysisCall :=
  rows.head?.bind fun head => head.flags.mode.base?.bind fun base =>
    let text := rows.flatMap (Row.analysedText frame.width)
    if rows.length ≤ frame.limit ∧ text ≠ [] then some { text, base } else none

/-- A paragraph whose call has an answer is laid out by that analysis. -/
theorem judge_of_call? {frame : Frame} {rows : List Row} {call : AnalysisCall}
    {analysis : Analysis} (havailable : frame.classifier.isAvailable = true)
    (hcall : frame.call? rows = some call)
    (hanalysis : frame.classifier.analyze call.text call.base = .ok analysis) :
    frame.judge rows = .analysed (rows.map (Line.ofRow frame.width)) analysis := by
  cases rows with
  | nil => cases hcall
  | cons head rest =>
    unfold call? at hcall
    unfold judge
    dsimp only [List.head?_cons, Option.bind_some] at hcall ⊢
    cases hbase : head.flags.mode.base? with
    | none =>
      rw [hbase] at hcall
      cases hcall
    | some base =>
      rw [hbase, Option.bind_some] at hcall
      split at hcall
      · next hlimit =>
        obtain rfl := Option.some.inj hcall
        have hshort : ¬frame.limit < (head :: rest).length := by omega
        dsimp only at hanalysis ⊢
        rw [if_neg (by rw [havailable]; exact Bool.noConfusion), if_neg hshort,
          if_neg hlimit.2, hanalysis]
      · cases hcall

/-- A paragraph that is read within the limit is decided upon as its whole chain is. -/
theorem prepare_of_isTail {frame : Frame} {source : RowSource} {row : Nat} {rows : List Row}
    (h : Chain.IsTail source row rows) : ∃ reads, frame.prepare source row =
      { verdict := frame.judge rows
        call? := if frame.classifier.isAvailable then frame.call? rows else none
        reads } := by
  obtain ⟨head, rest, rfl, hrow⟩ := h.exists_head
  obtain ⟨_, htail⟩ := h.tail_eq frame.limit
  unfold prepare judge call?
  rw [hrow]
  dsimp only [List.head?_cons, Option.bind_some]
  cases head.flags.mode.base? with
  | none =>
    simp only [Option.bind_none, ite_self]
    exact ⟨_, rfl⟩
  | some base =>
    cases havailable : frame.classifier.isAvailable with
    | false =>
      simp only [Bool.not_false, if_true, Bool.false_eq_true, if_false]
      exact ⟨_, rfl⟩
    | true =>
      simp only [Bool.not_true, Bool.false_eq_true, if_false, Bool.true_eq_false, if_true,
        Option.bind_some, htail, decide_eq_true_eq, List.isEmpty_iff]
      by_cases hlong : frame.limit < (head :: rest).length
      · rw [if_pos hlong, if_pos hlong, if_neg fun hcall => Nat.not_lt.2 hcall.1 hlong]
        exact ⟨_, rfl⟩
      · rw [if_neg hlong, if_neg hlong, List.take_of_length_le (by omega),
          ParagraphBuffer.chars_read, ParagraphBuffer.lines_read, Line.flatMap_text_ofRow]
        by_cases hblank : (head :: rest).flatMap (Row.analysedText frame.width) = []
        · rw [if_pos hblank, if_pos hblank, if_neg fun hcall => hcall.2 hblank]
          exact ⟨_, rfl⟩
        · rw [if_neg hblank, if_neg hblank, if_pos ⟨by omega, hblank⟩]
          exact ⟨_, rfl⟩

end Frame

end BidiViewport
