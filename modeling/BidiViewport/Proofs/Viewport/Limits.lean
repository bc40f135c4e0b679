import BidiViewport.CommandLine.Screen
import BidiViewport.Proofs.Layout.Grouping
import BidiViewport.Proofs.Viewport.Freshness

/-!
# Limits

The limit of a viewport depends on two numbers alone: the limit that was last asked for and
the width (`Viewport.limit_replay`).  What was asked for before, and at what widths, leaves no
trace.  That the settings are clamped once more, to a window that is no wider than
`maxWindow`, makes no difference, because a narrower window allows more rows
(`clampLimit_clampLimit`).

The limit is there to bound the text that is handed to a classifier: see
`Frame.length_text_le`.
-/

namespace BidiViewport

/-! ## Clamping -/

theorem rowsWithinBudget_anti {narrow wide : Nat} (h : narrow ≤ wide) :
    rowsWithinBudget wide ≤ rowsWithinBudget narrow := by
  have hcolumns : max 1 narrow ≤ max 1 wide := by omega
  have hrows : characterBudget / max 1 wide ≤ characterBudget / max 1 narrow :=
    Nat.div_le_div_left hcolumns (by omega)
  unfold rowsWithinBudget
  omega

/-- A limit that was clamped to a narrower width has lost nothing that the wider one allows. -/
theorem clampLimit_clampLimit (limit : Nat) {narrow wide : Nat} (h : narrow ≤ wide) :
    clampLimit (clampLimit limit narrow) wide = clampLimit limit wide := by
  have hpos := clampLimit_pos limit narrow
  have hrows := rowsWithinBudget_anti h
  unfold clampLimit at hpos ⊢
  omega

theorem clampLimit_max_one (limit columns : Nat) :
    clampLimit (max 1 limit) columns = clampLimit limit columns := by
  unfold clampLimit
  omega

/-- As many rows have no more columns than the budget, unless one row alone has more. -/
theorem clampLimit_mul_le (limit columns : Nat) :
    clampLimit limit columns * columns ≤ characterBudget ∨ clampLimit limit columns = 1 := by
  rcases Nat.eq_zero_or_pos (characterBudget / max 1 columns) with hnone | hsome
  · right
    unfold clampLimit rowsWithinBudget
    omega
  · left
    have hclamp : clampLimit limit columns ≤ characterBudget / max 1 columns := by
      unfold clampLimit rowsWithinBudget
      omega
    calc clampLimit limit columns * columns
        ≤ characterBudget / max 1 columns * max 1 columns :=
          Nat.mul_le_mul hclamp (Nat.le_max_right 1 columns)
      _ ≤ characterBudget := Nat.div_mul_le_self _ _

/-! ## The texts of a pass -/

theorem Row.length_analysedText (width : Nat) (row : Row) :
    (row.analysedText width).length ≤ width := by
  -- A fragment is a character only if no leader is on its left.
  have hcells (cells : List Cell) :
      (cells.takeWhile Cell.isFragment).length + (cells.filterMap Cell.analysedChar?).length ≤
        cells.length := by
    induction cells with
    | nil => exact Nat.le_refl _
    | cons cell rest ih =>
      cases cell with
      | leader base marks columns =>
        have hrun : (Cell.leader base marks columns :: rest).takeWhile Cell.isFragment = [] := rfl
        rw [hrun, List.length_nil, Nat.zero_add]
        exact List.length_filterMap_le _ _
      | fragment columns =>
        have hchar : (Cell.fragment columns).analysedChar? = none := rfl
        have hrun : (Cell.fragment columns :: rest).takeWhile Cell.isFragment =
          .fragment columns :: rest.takeWhile Cell.isFragment := rfl
        rw [hrun, List.filterMap_cons_none hchar, List.length_cons, List.length_cons]
        omega
  unfold analysedText
  dsimp only
  rw [List.length_append, List.length_replicate]
  exact Nat.le_trans (hcells _) (List.length_take_le _ _)

namespace Frame

theorem length_flatMap_analysedText (width : Nat) (rows : List Row) :
    (rows.flatMap (Row.analysedText width)).length ≤ rows.length * width := by
  induction rows with
  | nil => exact Nat.zero_le _
  | cons row rest ih =>
    have hrow := row.length_analysedText width
    rw [List.flatMap_cons, List.length_append, List.length_cons, Nat.succ_mul]
    omega

/-- The text of a paragraph has no more characters than the rows of the limit have columns. -/
theorem length_text_prepare (frame : Frame) (source : RowSource) (row : Nat)
    {call : AnalysisCall} (h : (frame.prepare source row).call? = some call) :
    call.text.length ≤ frame.limit * frame.width := by
  have hlines {content : Row} {base : ParagraphBase} {lines : List Line}
      (hasks : frame.Asks source row content base lines) :
      (lines.flatMap Line.text).length ≤ frame.limit * frame.width := by
    rw [hasks.lines_eq, Line.flatMap_text_ofRow]
    refine Nat.le_trans (length_flatMap_analysedText _ _) ?_
    exact Nat.mul_le_mul_right _ (Chain.length_rows_tail source frame.limit row)
  have hprepares := frame.prepares source row
  generalize frame.prepare source row = prepared at h hprepares
  cases hprepares with
  | failed hasks _ _ _ =>
    cases h
    exact hlines hasks
  | analysed hasks _ _ _ =>
    cases h
    exact hlines hasks
  | _ => cases h

theorem length_text_le {frame : Frame} {source : RowSource} {call : AnalysisCall}
    (h : call ∈ (frame.pass source).calls) : call.text.length ≤ frame.limit * frame.width := by
  obtain ⟨paragraph, hparagraph, hcall⟩ := List.mem_filterMap.1 h
  obtain ⟨row, rfl⟩ := exists_row_of_mem_paragraphsFrom hparagraph
  rw [call?_layoutParagraph] at hcall
  exact frame.length_text_prepare source row hcall

end Frame

/-! ## What a history asks for -/

namespace Viewport

def Command.limit? : Command → Option Nat
  | .set (.limit limit) => some limit
  | _ => none

def Command.width? : Command → Option Nat
  | .set (.width width) => some width
  | _ => none

/-- The value that a history asks for last, or the one before it. -/
def lastAsked (asked? : Command → Option Nat) (history : List (RowSource × Command))
    (before : Nat) : Nat :=
  (history.filterMap (asked? ·.2)).getLastD before

/-- What is set to be shown after a command. -/
def Config.after (config : Config) : Command → Config
  | .set setting => config.set setting
  | _ => config

theorem config_step (source : RowSource) (view : Viewport) (command : Command) :
    (view.step source command).config = view.config.after command := by
  cases command with
  | set setting => exact view.config_set setting
  | update =>
    unfold step update
    dsimp only
    split <;> rfl
  | _ => rfl

/-- What every command sets to the value that it asks for, and keeps if it asks for none, is
in the end what was asked for last. -/
theorem eq_lastAsked_replay (asked? : Command → Option Nat) (value : Config → Nat)
    (hafter : ∀ config command,
      value (config.after command) = (asked? command).getD (value config))
    (view : Viewport) (history : List (RowSource × Command)) :
    value (view.replay history).config = lastAsked asked? history (value view.config) := by
  induction history generalizing view with
  | nil => rfl
  | cons entry rest ih =>
    have hrest : value (view.replay (entry :: rest)).config =
        lastAsked asked? rest ((asked? entry.2).getD (value view.config)) := by
      rw [← hafter, ← config_step entry.1]
      exact ih _
    rw [hrest]
    unfold lastAsked
    cases hasked : asked? entry.2 with
    | none =>
      rw [List.filterMap_cons, hasked]
      rfl
    | some asked =>
      rw [List.filterMap_cons, hasked, List.getLastD_cons]
      rfl

theorem limit_after (config : Config) (command : Command) :
    (config.after command).limit = command.limit?.getD config.limit := by
  cases command with
  | set setting => cases setting <;> rfl
  | _ => rfl

theorem width_after (config : Config) (command : Command) :
    (config.after command).width = command.width?.getD config.width := by
  cases command with
  | set setting => cases setting <;> rfl
  | _ => rfl

/-- Settings in a window, and a viewport made from them, clamp the limit twice. -/
theorem limit_ofSettings (settings : Settings) (classifier : Classifier) (width rows : Nat) :
    ((new (.ofSettings (settings.applyWindow ⟨min width maxWindow, rows⟩))
      classifier).setWidth width).frame.limit = clampLimit settings.written.bidi.limit width := by
  generalize hoptions : ViewportOptions.ofSettings
    (settings.applyWindow ⟨min width maxWindow, rows⟩) = options
  have hclamped : options.limit =
      max 1 (clampLimit settings.written.bidi.limit (min width maxWindow)) := by
    rw [← hoptions]
    rfl
  have hconfig := config_set (new options classifier) (.width width)
  have hsound := (IsSound.new options classifier).setWidth width
  calc ((new options classifier).setWidth width).frame.limit
      = clampLimit options.limit width := by
        rw [hsound.limit_eq]
        exact congrArg (fun config => clampLimit config.limit config.width) hconfig
    _ = clampLimit settings.written.bidi.limit width := by
        rw [hclamped, clampLimit_max_one, clampLimit_clampLimit _ (Nat.min_le_left _ _)]

/-- Whatever a viewport was asked for before, its limit is the one last asked for, clamped to
the width last asked for.  It is at least one, and so many rows of the width are within the
budget if two rows are; so the texts handed to the classifier are within it too, if one row is.
Settings that were clamped to a window give the limit that they would give without it. -/
theorem limit_replay (options : ViewportOptions) (classifier : Classifier)
    (history : List (RowSource × Command)) :
    let view := (new options classifier).replay history
    view.frame.width = lastAsked Command.width? history 0 ∧
      view.frame.limit =
        clampLimit (lastAsked Command.limit? history options.limit) view.frame.width ∧
      1 ≤ view.frame.limit ∧
      (view.frame.limit * view.frame.width ≤ characterBudget ∨ view.frame.limit = 1) ∧
      (∀ source, ∀ call ∈ (view.frame.pass source).calls,
        call.text.length ≤ max characterBudget view.frame.width) ∧
      ∀ (settings : Settings) (width rows : Nat),
        let window : WindowSize := ⟨min width maxWindow, min rows maxWindow⟩
        ((new (.ofSettings (settings.applyWindow window)) classifier).setWidth
          width).frame.limit = clampLimit settings.written.bidi.limit width := by
  intro view
  have hsound : view.IsSound := (IsSound.new options classifier).replay history
  have hbudget :
      view.frame.limit * view.frame.width ≤ characterBudget ∨ view.frame.limit = 1 := by
    rw [hsound.limit_eq]
    exact clampLimit_mul_le _ _
  refine ⟨?_, ?_, hsound.limit_pos, hbudget, fun source call hcall => ?_,
    fun settings width rows => limit_ofSettings settings classifier width _⟩
  · exact eq_lastAsked_replay Command.width? Config.width width_after _ history
  · rw [hsound.limit_eq]
    exact congrArg (clampLimit · _)
      (eq_lastAsked_replay Command.limit? Config.limit limit_after _ history)
  · have htext := Frame.length_text_le hcall
    rcases hbudget with hwithin | hone
    · exact Nat.le_trans htext (Nat.le_trans hwithin (Nat.le_max_left _ _))
    · rw [hone, Nat.one_mul] at htext
      exact Nat.le_trans htext (Nat.le_max_right _ _)

end Viewport

end BidiViewport
