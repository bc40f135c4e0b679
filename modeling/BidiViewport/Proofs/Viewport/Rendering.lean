import BidiViewport.Proofs.Layout.Entries
import BidiViewport.Proofs.Viewport.Freshness
import BidiViewport.Proofs.Viewport.Integrity
import BidiViewport.Proofs.Viewport.Printing

/-!
# Rendering

A valid viewport can be printed at any time (`Viewport.renders_replay`).  The rows may have
changed since it was laid out: no look-up leaves the storage of a map, nor its row.  If they
have not, the text of each row is the one that `RowMap.Renders` describes.

A valid viewport is one that was recomputed and then left alone
(`Viewport.IsSound.exists_recompute`); `Viewport.lastSource?` has the rows that it was
recomputed for.
-/

namespace BidiViewport

namespace Viewport

/-! ## The last recompute -/

/-- The command lays the rows out. -/
def recomputes (view : Viewport) : Command → Bool
  | .recompute => true
  | .update => !view.isValid
  | _ => false

/-- The rows that a viewport was last laid out for in the course of a history. -/
def lastSource? (view : Viewport) : List (RowSource × Command) → Option RowSource
  | [] => none
  | (source, command) :: rest =>
    (lastSource? (view.step source command) rest).or
      (if view.recomputes command then some source else none)

/-- A command after which the viewport is valid has laid the rows out or done nothing. -/
theorem IsSound.step_cases {view : Viewport} (h : view.IsSound) (source : RowSource)
    {command : Command} (hvalid : (view.step source command).isValid = true) :
    (view.recomputes command = true ∧ view.step source command = view.recompute source) ∨
      (view.recomputes command = false ∧ view.step source command = view) := by
  cases command with
  | set setting => exact .inr ⟨rfl, h.set_of_isValid hvalid⟩
  | invalidate => cases hvalid
  | update =>
    cases hbefore : view.isValid with
    | true =>
      refine .inr ⟨?_, if_pos hbefore⟩
      unfold recomputes
      rw [hbefore]
      rfl
    | false =>
      refine .inl ⟨?_, if_neg ?_⟩
      · unfold recomputes
        rw [hbefore]
        rfl
      · rw [hbefore]
        exact Bool.false_ne_true
  | recompute => exact .inl ⟨rfl, rfl⟩

/-- A viewport that is valid after a history was laid out in it, or was valid before. -/
theorem IsSound.exists_recompute {view : Viewport} (h : view.IsSound)
    (history : List (RowSource × Command)) (hvalid : (view.replay history).isValid = true) :
    (∃ (prior : Viewport) (source : RowSource), prior.IsSound ∧
        view.lastSource? history = some source ∧
        view.replay history = prior.recompute source) ∨
      (view.lastSource? history = none ∧ view.isValid = true ∧ view.replay history = view) := by
  induction history generalizing view with
  | nil => exact .inr ⟨rfl, hvalid, rfl⟩
  | cons entry rest ih =>
    obtain ⟨source, command⟩ := entry
    rcases ih (h.step source command) hvalid with
      ⟨prior, last, hprior, hlast, hreplay⟩ | ⟨hnone, hvalid', hreplay⟩
    · refine .inl ⟨prior, last, hprior, ?_, hreplay⟩
      rw [lastSource?, hlast]
      rfl
    · have hlast : view.lastSource? ((source, command) :: rest) =
          if view.recomputes command then some source else none := by
        rw [lastSource?, hnone, Option.none_or]
      have hreplay : view.replay ((source, command) :: rest) = view.step source command := hreplay
      rcases h.step_cases source hvalid' with ⟨hdone, hstep⟩ | ⟨hdone, hstep⟩
      · refine .inl ⟨view, source, h, ?_, hreplay.trans hstep⟩
        rw [hlast, hdone]
        rfl
      · refine .inr ⟨?_, ?_, hreplay.trans hstep⟩
        · rw [hlast, hdone]
          rfl
        · rwa [hstep] at hvalid'

/-! ## The text of a row -/

end Viewport

/-- Printing a row of `width` columns with the map stays inside the storage of the map, and
finds leaders inside the row only, whatever the row is. -/
structure RowMap.StaysInside (map : RowMap) (width : Nat) : Prop where
  width_eq : map.width = width
  width_le : width ≤ map.slots.size
  leader_lt : ∀ (content : Row) (visual leader : Nat), visual < width →
    map.leaderAt? content visual = some leader → leader < width

theorem RowMap.staysInside_apply {map : RowMap} {layout : RowLayout} {width : Nat}
    (hfits : map.Fits width) (hinside : layout.IsInside width) :
    (map.apply layout).StaysInside width := by
  have hfits' := hfits.apply layout
  refine ⟨hfits'.width_eq, hfits'.width_le, ?_⟩
  intro content visual leader hlt hleader
  have hin := toLogical_inside hfits hinside hlt
  unfold leaderAt? at hleader
  dsimp only at hleader
  split at hleader
  · cases hleader
  · have hle := (Row.leader_of_leaderColumn? hleader).1
    omega

namespace Viewport

section Recompute

variable {view : Viewport} {source : RowSource} {row : Nat}

theorem IsSound.staysInside_recompute (h : view.IsSound) (source : RowSource)
    (hshows : view.frame.shows row = true) :
    ∃ map, (view.recompute source).rowMap? row = some map ∧ map.StaysInside view.frame.width := by
  obtain ⟨map, layout, hfits, hlayout, hmap⟩ := h.rowMap?_recompute source hshows
  obtain ⟨head, hmem⟩ := Frame.exists_row_of_mem_layouts_pass (List.mem_of_getElem? hlayout)
  exact ⟨map.apply layout, hmap,
    RowMap.staysInside_apply hfits (Frame.isInside_of_mem_layouts hmem)⟩

/-- The map of a visible row shows a bijection. -/
theorem IsSound.exists_mutual_map (h : view.IsSound) (hcompletes : view.frame.Completes source)
    (hshows : view.frame.shows row = true) :
    ∃ map layout, (view.recompute source).rowMap? row = some map ∧
      (view.frame.pass source).layouts[row - view.frame.start]? = some layout ∧
      layout.IsBijection view.frame.width ∧ map.width = view.frame.width ∧ map.Shows layout ∧
      map.IsMutual := by
  obtain ⟨map, layout, hmap, hlayout, hwidth, hshown⟩ :=
    (h.isCurrent_recompute source).rowMap? row hshows
  have hbijection : layout.IsBijection view.frame.width :=
    hcompletes layout (List.mem_of_getElem? hlayout)
  have hwidth : map.width = view.frame.width := hwidth
  refine ⟨map, layout, hmap, hlayout, hbijection, hwidth, hshown hbijection, ?_⟩
  refine (hshown hbijection).isMutual ?_
  rwa [hwidth]

theorem IsSound.renders_recompute (h : view.IsSound) (hcompletes : view.frame.Completes source)
    (hshows : view.frame.shows row = true) {map : RowMap}
    (hmap : (view.recompute source).rowMap? row = some map) {content : Row}
    (hrow : source.rowAt row = some content) (classifier : Classifier) :
    ∃ piece units,
      map.Renders classifier content piece units (map.visualText classifier (some content)) := by
  obtain ⟨other, layout, hother, hlayout, hbijection, hwidth, hshown, hmutual⟩ :=
    h.exists_mutual_map hcompletes hshows
  obtain rfl := Option.some.inj (hmap.symm.trans hother)
  refine RowMap.exists_renders classifier hmutual ?_
  intro first count hunit
  rw [hwidth] at hunit
  obtain ⟨head, htakes, hsame⟩ := Frame.exists_takes source hshows
  have htogether := Frame.drawnTogether_of_isBijection htakes.head_le hrow
    (hsame.symm.trans hlayout) hbijection (CellSpan.mem_units_iff.2 hunit)
  have hvisual : map.toVisual = layout.toVisual view.frame.width := by
    funext column
    rw [hshown.toVisual, hwidth]
  have hdirection : map.visualDirection = layout.visualDirection view.frame.width := by
    funext visual
    rw [hshown.visualDirection, hwidth]
  rw [hvisual, hdirection]
  exact htogether

end Recompute

/-- A valid viewport prints each visible row without leaving the storage of its map, and without
leaving the row, whatever the rows are now.  With the rows that it was laid out for, it prints
blanks for a missing row, and for any other one the text that `RowMap.Renders` describes.

An order that fails the check of its map has no such text (`Frame.completes_of_wellFormed`: no
classifier that keeps its promise has one). -/
theorem renders_replay (options : ViewportOptions) (classifier : Classifier)
    (history : List (RowSource × Command)) (row : Nat)
    (hvalid : ((new options classifier).replay history).isValid = true)
    (hshows : ((new options classifier).replay history).frame.shows row = true) :
    let view := (new options classifier).replay history
    ∃ map source, view.rowMap? row = some map ∧ map.StaysInside view.frame.width ∧
      (new options classifier).lastSource? history = some source ∧
      (source.rowAt row = none →
        view.visualText? source row = some (List.replicate view.frame.width ' ')) ∧
      (view.frame.Completes source →
        ∀ content, source.rowAt row = some content → ∃ piece units text,
          view.visualText? source row = some text ∧
            map.Renders view.frame.classifier content piece units text) := by
  intro view
  have hview : view = (new options classifier).replay history := rfl
  rcases (IsSound.new options classifier).exists_recompute history hvalid with
    ⟨prior, source, hprior, hlast, hreplay⟩ | ⟨-, hnever, -⟩
  · rw [hreplay] at hview hshows
    clear_value view
    subst hview
    obtain ⟨map, hmap, hinside⟩ := hprior.staysInside_recompute source hshows
    have htext : (prior.recompute source).visualText? source row =
        some (map.visualText prior.frame.classifier (source.rowAt row)) := by
      unfold visualText?
      rw [hmap]
      rfl
    refine ⟨map, source, hmap, hinside, hlast, ?_, ?_⟩
    · intro hmissing
      rw [htext, hmissing]
      exact congrArg (fun width => some (List.replicate width ' ')) hinside.width_eq
    · intro hcompletes content hrow
      obtain ⟨piece, units, hrenders⟩ :=
        hprior.renders_recompute hcompletes hshows hmap hrow prior.frame.classifier
      rw [hrow] at htext
      exact ⟨piece, units, _, htext, hrenders⟩
  · cases hnever

/-- A row that begins with a fragment and ends inside a wide character, with a control character
of two columns and a marked bracket, printed when the rows have changed. -/
theorem renders_replay_changed :
    let flags : DirectionFlags := { implicit := true, auto := true }
    let content : Row :=
      { cells := #[.fragment 2, .leader 'א' [] 1, .leader '(' ['\u0301'] 1, .leader '\t' [] 2,
          .fragment 2, .leader 'b' [] 1, .leader '世' [] 2, .fragment 2]
        flags }
    let source := ((Scrollback.empty 4).extend [content]).source
    let later := ((Scrollback.empty 4).extend [{ cells := #[.fragment 1] }]).source
    let history := [(source, Command.set (.width 8)), (source, .set (.rows 0 2)),
      (source, .update), (later, .set (.shaping true)), (later, .update)]
    let view := (new {} .unicode).replay history
    view.isValid = true ∧ view.frame.shows 0 = true ∧ view.frame.Completes source ∧
      ∃ map piece units, view.rowMap? 0 = some map ∧ map.StaysInside 8 ∧
        map.Renders .unicode content piece units ['b', '世', ' ', ' ', ')', '\u0301', 'א', ' '] := by
  intro flags content source later history view
  have hcompletes : view.frame.Completes source :=
    Frame.completes_of_wellFormed Classifier.wellFormed_unicode source
  refine ⟨rfl, rfl, hcompletes, ?_⟩
  obtain ⟨map, last, hmap, hinside, hlast, -, hrenders⟩ :=
    renders_replay {} .unicode history 0 rfl rfl
  have hsource : (new {} .unicode).lastSource? history = some source := rfl
  obtain rfl := Option.some.inj (hlast.symm.trans hsource)
  obtain ⟨piece, units, text, htext, hdrawn⟩ := hrenders hcompletes content rfl
  have hprinted : view.visualText? source 0 =
      some ['b', '世', ' ', ' ', ')', '\u0301', 'א', ' '] := by decide +kernel
  obtain rfl := Option.some.inj (htext.symm.trans hprinted)
  exact ⟨map, piece, units, hmap, hinside, hdrawn⟩

end Viewport

end BidiViewport
