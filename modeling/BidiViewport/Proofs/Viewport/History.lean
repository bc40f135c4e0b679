import BidiViewport.Layout.Viewport
import BidiViewport.Proofs.Layout.Answers
import BidiViewport.Proofs.Layout.Paragraphs

/-!
# Histories of a viewport

A viewport is used by commands (`Viewport.Command`), in any order, and the rows under it
may change between them.  `Viewport.replay` is the viewport after such a history.

* `Viewport.IsSound`: what holds of a viewport after every history
  (`Viewport.IsReachable.isSound`).  There is a map for each visible row, each map has room for
  its row, and the limit is the one that the budget allows.
* `Viewport.IsCurrent`: the maps are those of a pass over the rows as they are now.  This
  holds once they are recomputed, whatever the history before
  (`Viewport.IsSound.isCurrent_recompute`).
-/

namespace BidiViewport

namespace Viewport

/-! ## Commands -/

/-- A setting and the value it is given. -/
inductive Setting
  | width (width : Nat)
  | rows (start size : Nat)
  | classifier (classifier : Classifier)
  | shaping (shaping : Bool)
  | limit (limit : Nat)

/-- What can be asked of a viewport. -/
inductive Command
  | set (setting : Setting)
  | invalidate
  | update
  | recompute

def set (view : Viewport) : Setting → Viewport
  | .width width => view.setWidth width
  | .rows start size => view.setRows start size
  | .classifier classifier => view.setClassifier classifier
  | .shaping shaping => view.setShaping shaping
  | .limit limit => view.setLimit limit

/-- The viewport after one command, given when its rows were those of `source`. -/
def step (source : RowSource) (view : Viewport) : Command → Viewport
  | .set setting => view.set setting
  | .invalidate => view.invalidate
  | .update => view.update source
  | .recompute => view.recompute source

/-- The viewport after a history: commands, and the rows at the time of each. -/
def replay (view : Viewport) (history : List (RowSource × Command)) : Viewport :=
  history.foldl (fun view entry => view.step entry.1 entry.2) view

/-- The viewport has come out of some history. -/
def IsReachable (view : Viewport) : Prop :=
  ∃ options classifier history, view = (new options classifier).replay history

/-- A history goes on with every command. -/
theorem IsReachable.step {view : Viewport} (h : view.IsReachable) (source : RowSource)
    (command : Command) : (view.step source command).IsReachable := by
  obtain ⟨options, classifier, history, rfl⟩ := h
  refine ⟨options, classifier, history ++ [(source, command)], ?_⟩
  unfold replay
  rw [List.foldl_append]
  rfl

/-! ## Sound viewports -/

/-- Every visible row has a map with room for it, and the limit is within the budget. -/
structure IsSound (view : Viewport) : Prop where
  limit_eq : view.frame.limit = clampLimit view.requestedLimit view.frame.width
  reserve_pos : 0 < view.reserveColumns
  size_pos : 0 < view.maps.size
  size_le : view.frame.size ≤ view.maps.size
  fits : ∀ map ∈ view.maps, map.Fits view.frame.width

end Viewport

namespace RowMap

theorem fits_withCapacity (columns : Nat) : (withCapacity columns).Fits 0 := by
  have hsize : (withCapacity columns).slots.size = max 1 columns := Array.size_replicate
  refine ⟨rfl, Nat.zero_le _, ?_⟩
  rw [hsize]
  omega

/-- Storage grows until the row fits, whatever width the map had before. -/
theorem fits_setWidth {map : RowMap} (h : 0 < map.slots.size) (width : Nat) :
    (map.setWidth width).Fits width := by
  have hgrown : width ≤ grownCapacity width map.capacity := le_grownCapacity h
  have hsize : (map.setWidth width).slots.size =
      map.capacity + (grownCapacity width map.capacity - map.capacity) := by
    rw [setWidth, Array.size_append, Array.size_replicate]
    rfl
  refine ⟨rfl, ?_, ?_⟩
  · omega
  · rw [hsize]
    exact Nat.add_pos_left h _

end RowMap

namespace Viewport

theorem length_applyAll (maps : List RowMap) (layouts : List RowLayout) :
    (applyAll maps layouts).length = maps.length := by
  unfold applyAll
  rw [List.length_append, List.length_zipWith, List.length_drop]
  omega

theorem getElem?_applyAll (maps : List RowMap) (layouts : List RowLayout) (i : Nat) :
    (applyAll maps layouts)[i]? = maps[i]?.map fun map => layouts[i]?.elim map map.apply := by
  induction maps generalizing layouts i with
  | nil => simp [applyAll]
  | cons map rest ih =>
    cases layouts with
    | nil => simp [applyAll]
    | cons layout others =>
      cases i with
      | zero => rfl
      | succ i => exact ih others i

theorem fits_of_mem_applyAll {maps : List RowMap} {layouts : List RowLayout} {width : Nat}
    (h : ∀ map ∈ maps, map.Fits width) : ∀ map ∈ applyAll maps layouts, map.Fits width := by
  intro map hmap
  obtain ⟨i, hi⟩ := List.mem_iff_getElem?.1 hmap
  rw [getElem?_applyAll] at hi
  obtain ⟨old, hold, rfl⟩ := Option.map_eq_some_iff.1 hi
  have hfits := h old (List.mem_of_getElem? hold)
  cases layouts[i]? with
  | none => exact hfits
  | some layout => exact hfits.apply layout

namespace IsSound

variable {view : Viewport}

theorem new (options : ViewportOptions) (classifier : Classifier) :
    (Viewport.new options classifier).IsSound where
  limit_eq := rfl
  reserve_pos := Nat.lt_of_lt_of_le Nat.zero_lt_one (Nat.le_max_left _ _)
  size_pos := by
    simp only [Viewport.new, Array.size_replicate]
    omega
  size_le := Nat.zero_le _
  fits map hmap := by
    rw [Array.eq_of_mem_replicate hmap]
    exact RowMap.fits_withCapacity _

theorem setWidth (h : view.IsSound) (width : Nat) : (view.setWidth width).IsSound := by
  unfold Viewport.setWidth
  split
  · exact h
  · refine ⟨rfl, h.reserve_pos, ?_, ?_, fun map hmap => ?_⟩
    · simpa using h.size_pos
    · simpa using h.size_le
    · obtain ⟨old, hold, rfl⟩ := Array.mem_map.1 hmap
      exact RowMap.fits_setWidth (h.fits old hold).size_pos width

theorem setRows (h : view.IsSound) (start size : Nat) : (view.setRows start size).IsSound := by
  have hgrown : size ≤ view.grownTo size := le_grownCapacity h.size_pos
  have hsize : (view.setRows start size).maps.size =
      view.capacity + (view.grownTo size - view.capacity) := by
    simp only [Viewport.setRows, Array.size_append, Array.size_replicate]
    rfl
  refine ⟨h.limit_eq, h.reserve_pos, ?_, ?_, fun map hmap => ?_⟩
  · rw [hsize]
    exact Nat.add_pos_left h.size_pos _
  · have hshown : (view.setRows start size).frame.size = size := rfl
    rw [hsize, hshown]
    omega
  · rcases Array.mem_append.1 hmap with hold | hadded
    · exact h.fits map hold
    · rw [Array.eq_of_mem_replicate hadded]
      exact RowMap.fits_setWidth (RowMap.fits_withCapacity _).size_pos _

theorem setLimit (h : view.IsSound) (limit : Nat) : (view.setLimit limit).IsSound := by
  unfold Viewport.setLimit
  split
  · exact h
  · exact ⟨rfl, h.reserve_pos, h.size_pos, h.size_le, h.fits⟩

theorem set (h : view.IsSound) (setting : Setting) : (view.set setting).IsSound := by
  cases setting with
  | width width => exact h.setWidth width
  | rows start size => exact h.setRows start size
  | classifier classifier => exact ⟨h.limit_eq, h.reserve_pos, h.size_pos, h.size_le, h.fits⟩
  | shaping shaping => exact ⟨h.limit_eq, h.reserve_pos, h.size_pos, h.size_le, h.fits⟩
  | limit limit => exact h.setLimit limit

theorem accept (h : view.IsSound) (pass : Pass) : (view.accept pass).IsSound := by
  have hsize : (view.accept pass).maps.size = view.maps.size := by
    simp only [Viewport.accept, List.size_toArray, length_applyAll, Array.length_toList]
  refine ⟨h.limit_eq, h.reserve_pos, ?_, ?_, fun map hmap => ?_⟩
  · exact hsize ▸ h.size_pos
  · exact hsize ▸ h.size_le
  · refine fits_of_mem_applyAll (fun old hold => ?_) map (List.mem_toArray.1 hmap)
    exact h.fits old (Array.mem_toList_iff.1 hold)

theorem update (h : view.IsSound) (source : RowSource) : (view.update source).IsSound := by
  unfold Viewport.update
  split
  · exact h
  · exact h.accept _

theorem step (h : view.IsSound) (source : RowSource) (command : Command) :
    (view.step source command).IsSound := by
  cases command with
  | set setting => exact h.set setting
  | invalidate => exact ⟨h.limit_eq, h.reserve_pos, h.size_pos, h.size_le, h.fits⟩
  | update => exact h.update source
  | recompute => exact h.accept _

theorem replay (h : view.IsSound) (history : List (RowSource × Command)) :
    (view.replay history).IsSound := by
  induction history generalizing view with
  | nil => exact h
  | cons entry rest ih => exact ih (h.step entry.1 entry.2)

end IsSound

theorem IsSound.limit_pos {view : Viewport} (h : view.IsSound) : 0 < view.frame.limit := by
  rw [h.limit_eq]
  exact clampLimit_pos _ _

theorem IsReachable.isSound {view : Viewport} (h : view.IsReachable) : view.IsSound := by
  obtain ⟨options, classifier, history, rfl⟩ := h
  exact (IsSound.new options classifier).replay history

/-! ## Current viewports -/

/-- The viewport has the outcome of a pass over the rows of `source`: the account of the
work, and for each visible row a map that answers as the row's layout does.  An order
that fails the check of the map has no answers. -/
structure IsCurrent (view : Viewport) (source : RowSource) : Prop where
  stats : view.stats = (view.frame.pass source).stats
  rowMap? : ∀ row, view.frame.shows row = true → ∃ map layout, view.rowMap? row = some map ∧
    (view.frame.pass source).layouts[row - view.frame.start]? = some layout ∧
    map.width = view.frame.width ∧ (layout.IsBijection view.frame.width → map.Shows layout)

theorem rowMap?_of_shows {view : Viewport} {row : Nat} (h : view.frame.shows row = true) :
    view.rowMap? row = view.maps[row - view.frame.start]? :=
  if_pos h

/-- Every visible row has a map with room for it. -/
theorem IsSound.exists_map {view : Viewport} (h : view.IsSound) {row : Nat}
    (hrow : view.frame.shows row = true) :
    ∃ map, view.maps.toList[row - view.frame.start]? = some map ∧ map.Fits view.frame.width := by
  have hlt := Frame.sub_start_lt_size hrow
  have hsize := h.size_le
  have hmap := List.getElem?_eq_getElem (l := view.maps.toList) (i := row - view.frame.start)
    (by rw [Array.length_toList]; omega)
  exact ⟨_, hmap, h.fits _ (Array.mem_toList_iff.1 (List.mem_of_getElem? hmap))⟩

/-- Recomputing puts the layout of a visible row into the map at its place. -/
theorem rowMap?_recompute_of_layout {view : Viewport} {source : RowSource} {row : Nat}
    {map : RowMap} {layout : RowLayout} (hrow : view.frame.shows row = true)
    (hmap : view.maps.toList[row - view.frame.start]? = some map)
    (hlayout : (view.frame.pass source).layouts[row - view.frame.start]? = some layout) :
    (view.recompute source).rowMap? row = some (map.apply layout) := by
  have hshown : (view.recompute source).frame.shows row = true := hrow
  rw [rowMap?_of_shows hshown]
  unfold Viewport.recompute Viewport.accept
  rw [List.getElem?_toArray, getElem?_applyAll, hmap, hlayout]
  rfl

/-- Every visible row has a layout, and recomputing puts it into the map of the row. -/
theorem IsSound.rowMap?_recompute {view : Viewport} (h : view.IsSound) (source : RowSource)
    {row : Nat} (hrow : view.frame.shows row = true) :
    ∃ (map : RowMap) (layout : RowLayout), map.Fits view.frame.width ∧
      (view.frame.pass source).layouts[row - view.frame.start]? = some layout ∧
      (view.recompute source).rowMap? row = some (map.apply layout) := by
  obtain ⟨map, hmap, hfits⟩ := h.exists_map hrow
  obtain ⟨layout, hlayout⟩ := Frame.exists_layout source hrow
  exact ⟨map, layout, hfits, hlayout, rowMap?_recompute_of_layout hrow hmap hlayout⟩

/-- Recomputing makes the maps current, whatever they held before. -/
theorem IsSound.isCurrent_recompute {view : Viewport} (h : view.IsSound) (source : RowSource) :
    (view.recompute source).IsCurrent source := by
  refine ⟨rfl, fun row hrow => ?_⟩
  obtain ⟨map, layout, hfits, hlayout, hmap⟩ := h.rowMap?_recompute source hrow
  refine ⟨map.apply layout, layout, hmap, hlayout, ?_, hfits.shows_apply⟩
  rw [RowMap.width_apply]
  exact hfits.width_eq

theorem IsCurrent.exists_shows {view : Viewport} {source : RowSource} {row : Nat}
    {layout : RowLayout} (h : view.IsCurrent source) (hshows : view.frame.shows row = true)
    (hlayout : (view.frame.pass source).layouts[row - view.frame.start]? = some layout)
    (hbijection : layout.IsBijection view.frame.width) :
    ∃ map, view.rowMap? row = some map ∧ map.width = view.frame.width ∧ map.Shows layout := by
  obtain ⟨map, other, hmap, hother, hwidth, hshown⟩ := h.rowMap? row hshows
  obtain rfl := Option.some.inj (hlayout.symm.trans hother)
  exact ⟨map, hmap, hwidth, hshown hbijection⟩

/-- Where two passes have the same layout, the maps of current viewports agree. -/
theorem IsCurrent.exists_agree {a b : Viewport} {sourceA sourceB : RowSource} {rowA rowB : Nat}
    (ha : a.IsCurrent sourceA) (hb : b.IsCurrent sourceB)
    (hwidth : a.frame.width = b.frame.width) (hcompletes : a.frame.Completes sourceA)
    (hrowA : a.frame.shows rowA = true) (hrowB : b.frame.shows rowB = true)
    (hsame : (a.frame.pass sourceA).layouts[rowA - a.frame.start]? =
      (b.frame.pass sourceB).layouts[rowB - b.frame.start]?) :
    ∃ mapA mapB, a.rowMap? rowA = some mapA ∧ b.rowMap? rowB = some mapB ∧ mapA.Agree mapB := by
  obtain ⟨mapA, layout, hmapA, hlayoutA, hwidthA, hshowsA⟩ := ha.rowMap? rowA hrowA
  obtain ⟨mapB, layoutB, hmapB, hlayoutB, hwidthB, hshowsB⟩ := hb.rowMap? rowB hrowB
  obtain rfl : layout = layoutB :=
    Option.some.inj (hlayoutA.symm.trans (hsame.trans hlayoutB))
  have hbijection : layout.IsBijection a.frame.width :=
    hcompletes layout (List.mem_of_getElem? hlayoutA)
  refine ⟨mapA, mapB, hmapA, hmapB, (hshowsA hbijection).agree (hshowsB ?_) ?_⟩
  · rw [← hwidth]
    exact hbijection
  · rw [hwidthA, hwidthB, hwidth]

end Viewport

end BidiViewport
