import BidiViewport.Classifier.Unicode
import BidiViewport.Proofs.Viewport.Limits
import Mathlib.Algebra.Group.Nat.Defs
import Mathlib.Order.Bounds.Defs

/-!
# Storage

A viewport never gives storage back, so its maps are of different ages: one that was made
for a wide window keeps the columns of then, and what was stored in them, when the window
is narrow.  Reading a map is safe all the same.  The one look-up that goes where the
storage says, that of `RowMap.logicalDirection`, meets a visual column which some earlier
layout put there, and that may be beyond the row, but not beyond the storage
(`RowMap.PointsInside`).

* `RowMap.Evolves`: what one command can do to a map.  All that is said about the storage
  of a map, at any time, follows from what these changes keep.
* `Viewport.storage_replay`: the storage of a viewport after any history.
* `Viewport.isStorable_iff`: which rows there can be storage for.
-/

namespace BidiViewport

/-! ## Doubling -/

/-- The capacities that are reached from `base` by doubling and that meet every need. -/
def capacitiesFor (base : Nat) (needs : List Nat) : Set Nat :=
  { capacity | (∃ k, capacity = base * 2 ^ k) ∧ ∀ need ∈ needs, need ≤ capacity }

theorem exists_grownCapacity_eq (need capacity : Nat) :
    ∃ k, grownCapacity need capacity = capacity * 2 ^ k := by
  fun_induction grownCapacity need capacity with
  | case1 capacity _ ih =>
    obtain ⟨k, hk⟩ := ih
    refine ⟨k + 1, hk.trans ?_⟩
    rw [Nat.pow_succ', ← Nat.mul_assoc, Nat.mul_comm 2 capacity]
  | case2 capacity _ => exact ⟨0, (Nat.mul_one capacity).symm⟩

/-- Growth stops at the first capacity that meets the need. -/
theorem grownCapacity_le {need capacity k : Nat} (h : need ≤ capacity * 2 ^ k) :
    grownCapacity need capacity ≤ capacity * 2 ^ k := by
  fun_induction grownCapacity need capacity generalizing k with
  | case1 capacity hshort ih =>
    cases k with
    | zero => omega
    | succ k =>
      have hdoubled : capacity * 2 ^ (k + 1) = 2 * capacity * 2 ^ k := by
        rw [Nat.pow_succ', ← Nat.mul_assoc, Nat.mul_comm capacity 2]
      rw [hdoubled] at h ⊢
      exact ih h
  | case2 capacity _ => exact Nat.le_mul_of_pos_right _ (Nat.two_pow_pos k)

theorem isLeast_capacitiesFor_nil (base : Nat) : IsLeast (capacitiesFor base []) base := by
  refine ⟨⟨⟨0, (Nat.mul_one base).symm⟩, fun need hneed => ?_⟩, ?_⟩
  · cases hneed
  · rintro _ ⟨⟨k, rfl⟩, -⟩
    exact Nat.le_mul_of_pos_right _ (Nat.two_pow_pos k)

/-- Storage that was the least for what was needed before is the least for one need more. -/
theorem isLeast_grownCapacity {base capacity : Nat} {needs : List Nat} (hbase : 0 < base)
    (h : IsLeast (capacitiesFor base needs) capacity) (need : Nat) :
    IsLeast (capacitiesFor base (needs ++ [need])) (grownCapacity need capacity) := by
  obtain ⟨⟨⟨j, rfl⟩, hneeds⟩, hleast⟩ := h
  obtain ⟨k, hk⟩ := exists_grownCapacity_eq need (base * 2 ^ j)
  have hpos : 0 < base * 2 ^ j := Nat.mul_pos hbase (Nat.two_pow_pos j)
  refine ⟨⟨⟨j + k, ?_⟩, fun other hother => ?_⟩, ?_⟩
  · rw [hk, Nat.pow_add, Nat.mul_assoc]
  · rcases List.mem_append.1 hother with hbefore | hnew
    · exact Nat.le_trans (hneeds other hbefore) (le_grownCapacity_self _ _)
    · rw [List.mem_singleton.1 hnew]
      exact le_grownCapacity hpos
  · rintro _ ⟨⟨i, rfl⟩, hmeets⟩
    have hbefore : base * 2 ^ j ≤ base * 2 ^ i :=
      hleast ⟨⟨i, rfl⟩, fun other hother => hmeets other (List.mem_append_left _ hother)⟩
    have hji : j ≤ i :=
      (Nat.pow_le_pow_iff_right (by decide)).1 (Nat.le_of_mul_le_mul_left hbefore hbase)
    have hsplit : base * 2 ^ i = base * 2 ^ j * 2 ^ (i - j) := by
      rw [Nat.mul_assoc, ← Nat.pow_add, Nat.add_sub_cancel' hji]
    have hneed : need ≤ base * 2 ^ i :=
      hmeets need (List.mem_append_right _ (List.mem_singleton_self need))
    rw [hsplit] at hneed ⊢
    exact grownCapacity_le hneed

namespace RowMap

/-! ## Look-ups -/

/-- A query that fails when it looks up a slot which is not in the storage.  Columns that no
slot decides about are answered without a look-up; what else `ask` looks up is up to it. -/
def checked {α : Type} (map : RowMap) (column : Int) (ask : Slot → Option α) (otherwise : α) :
    Option α :=
  if map.isIdentity ∨ column < 0 ∨ (map.width : Int) ≤ column then some otherwise
  else map.slots[column.toNat]?.bind ask

/-- No query looks up a slot that is not in the storage. -/
structure ReadsInside (map : RowMap) : Prop where
  toVisual : ∀ column : Int, map.checked column (fun slot => some (slot.toVisual : Int))
    (map.passThrough column) = some (map.toVisual column)
  toLogical : ∀ visual : Int, map.checked visual (fun slot => some (slot.toLogical : Int))
    (map.passThrough visual) = some (map.toLogical visual)
  visualDirection : ∀ visual : Int, map.checked visual (fun slot => some slot.direction)
    map.direction = some (map.visualDirection visual)
  logicalDirection : ∀ column : Int, map.checked column
    (fun slot => map.slots[slot.toVisual]?.map (·.direction)) map.direction =
      some (map.logicalDirection column)
  glyph? : ∀ visual : Int, map.checked visual (fun slot => some slot.glyph) none =
    some (map.glyph? visual)

/-- Every visual column that is stored has a slot in the storage. -/
def PointsInside (slots : Array Slot) : Prop :=
  ∀ (i : Nat) (slot : Slot), slots[i]? = some slot → slot.toVisual < slots.size

theorem checked_eq {α : Type} {map : RowMap} (h : map.width ≤ map.slots.size) (column : Int)
    (ask : Slot → Option α) (otherwise : α) :
    map.checked column ask otherwise = (map.slot? column).elim (some otherwise) ask := by
  unfold checked slot?
  split
  · rfl
  · have hlt : column.toNat < map.slots.size := by omega
    rw [Array.getElem?_eq_getElem hlt]
    rfl

/-- With room for the row, only a stored visual column could lead out of the storage. -/
theorem readsInside {map : RowMap} (hroom : map.width ≤ map.slots.size)
    (hpoints : PointsInside map.slots) : map.ReadsInside := by
  refine ⟨fun column => ?_, fun visual => ?_, fun visual => ?_, fun column => ?_,
    fun visual => ?_⟩
  all_goals rw [checked_eq hroom]
  · unfold toVisual
    cases map.slot? column <;> rfl
  · unfold toLogical
    cases map.slot? visual <;> rfl
  · unfold visualDirection
    cases map.slot? visual <;> rfl
  · unfold logicalDirection
    cases hslot : map.slot? column with
    | none => rfl
    | some slot =>
      have hstored : map.slots[column.toNat]? = some slot := by
        unfold slot? at hslot
        split at hslot
        · cases hslot
        · exact hslot
      simp [Array.getElem?_eq_getElem (hpoints _ slot hstored)]
  · unfold glyph?
    cases map.slot? visual <;> rfl

namespace PointsInside

variable {slots : Array Slot}

theorem replicate (size : Nat) : PointsInside (.replicate size {}) := by
  intro i slot hslot
  obtain ⟨hlt, hget⟩ := Array.getElem?_eq_some_iff.1 hslot
  rw [Array.getElem_replicate] at hget
  rw [← hget]
  exact Nat.zero_lt_of_lt hlt

/-- More storage makes no visual column invalid. -/
theorem append {more : Array Slot} (h : PointsInside slots) (hmore : PointsInside more) :
    PointsInside (slots ++ more) := by
  intro i slot hslot
  rw [Array.size_append]
  rw [Array.getElem?_append] at hslot
  split at hslot
  · exact Nat.lt_add_right _ (h i slot hslot)
  · exact Nat.lt_add_left _ (hmore _ slot hslot)

theorem link {visual : Nat} (h : PointsInside slots) (hvisual : visual < slots.size)
    (column : Nat × Direction) : PointsInside (link slots visual column) := by
  intro i slot hslot
  rw [getElem?_link] at hslot
  obtain ⟨old, hold, rfl⟩ := Option.map_eq_some_iff.1 hslot
  rw [size_link]
  dsimp only
  split
  · exact hvisual
  · exact h i old hold

theorem linkFrom {visual : Nat} {columns : List (Nat × Direction)} (h : PointsInside slots)
    (hroom : visual + columns.length ≤ slots.size) :
    PointsInside (linkFrom slots visual columns) := by
  induction columns generalizing slots visual with
  | nil => exact h
  | cons column rest ih =>
    rw [List.length_cons] at hroom
    refine ih (h.link (by omega) column) ?_
    rw [size_link]
    omega

/-- A glyph changes no visual column. -/
theorem placeGlyph (h : PointsInside slots) (width : Nat) (glyph : Nat × Char) :
    PointsInside (placeGlyph width slots glyph) := by
  unfold RowMap.placeGlyph
  split
  · split
    · intro i slot hslot
      rw [Array.getElem?_modify] at hslot
      rw [Array.size_modify]
      split at hslot
      · obtain ⟨old, hold, rfl⟩ := Option.map_eq_some_iff.1 hslot
        exact h i old hold
      · exact h i slot hslot
    · exact h
  · exact h

theorem placeGlyphs (h : PointsInside slots) (width : Nat) (glyphs : List (Nat × Char)) :
    PointsInside (glyphs.foldl (RowMap.placeGlyph width) slots) := by
  induction glyphs generalizing slots with
  | nil => exact h
  | cons glyph rest ih => exact ih (h.placeGlyph width glyph)

end PointsInside

/-! ## What happens to a map -/

/-- What one command can do to a map.  A layout that is put into it has an order of its own
columns. -/
inductive Evolves (map : RowMap) : RowMap → Prop
  | same : Evolves map map
  | setWidth (width : Nat) : Evolves map (map.setWidth width)
  | apply (layout : RowLayout) (hroom : map.width ≤ map.slots.size)
      (hbijection : layout.IsBijection map.width) : Evolves map (map.apply layout)

theorem capacity_apply (map : RowMap) (layout : RowLayout) :
    (map.apply layout).capacity = map.capacity :=
  size_apply map layout

theorem capacity_setWidth (map : RowMap) (width : Nat) :
    (map.setWidth width).capacity = grownCapacity width map.capacity := by
  have hgrown := le_grownCapacity_self width map.capacity
  unfold capacity at hgrown ⊢
  simp only [setWidth, capacity, Array.size_append, Array.size_replicate]
  omega

theorem Evolves.capacity_le {map later : RowMap} (h : map.Evolves later) :
    map.capacity ≤ later.capacity := by
  cases h with
  | same => exact Nat.le_refl _
  | setWidth width =>
    rw [capacity_setWidth]
    exact le_grownCapacity_self _ _
  | apply layout _ _ => exact Nat.le_of_eq (capacity_apply map layout).symm

/-- The storage of a map that had room for `columns` columns at first. -/
structure IsStored (columns : Nat) (map : RowMap) : Prop where
  capacity_eq : ∃ k, map.capacity = columns * 2 ^ k
  pointsInside : PointsInside map.slots

namespace IsStored

variable {columns : Nat}

theorem withCapacity (h : 0 < columns) : IsStored columns (.withCapacity columns) where
  capacity_eq := by
    refine ⟨0, ?_⟩
    simp only [capacity, RowMap.withCapacity, Array.size_replicate]
    omega
  pointsInside := .replicate _

theorem evolve {map later : RowMap} (h : IsStored columns map) (hevolves : map.Evolves later) :
    IsStored columns later := by
  obtain ⟨⟨k, hk⟩, hpoints⟩ := h
  cases hevolves with
  | same => exact ⟨⟨k, hk⟩, hpoints⟩
  | setWidth width =>
    obtain ⟨j, hj⟩ := exists_grownCapacity_eq width map.capacity
    refine ⟨⟨k + j, ?_⟩, hpoints.append (.replicate _)⟩
    rw [capacity_setWidth, hj, hk, Nat.mul_assoc, Nat.pow_add]
  | apply layout hroom hbijection =>
    refine ⟨⟨k, (capacity_apply map layout).trans hk⟩, ?_⟩
    unfold apply
    cases harrangement : layout.arrangement with
    | straight => exact hpoints
    | ordered columns glyphs =>
      have hlength : columns.length = map.width :=
        RowLayout.length_of_perm (RowLayout.perm_of_isBijection harrangement hbijection)
      exact (hpoints.linkFrom (by omega)).placeGlyphs map.width glyphs

end IsStored

end RowMap

namespace Viewport

/-! ## What happens to the maps of a viewport -/

/-- Each map has evolved into the one at its place, and a map that was not there is new. -/
structure Grows (view after : Viewport) : Prop where
  reserve : after.reserveColumns = view.reserveColumns
  kept : ∀ (i : Nat) (map : RowMap), view.maps[i]? = some map →
    ∃ later, after.maps[i]? = some later ∧ map.Evolves later
  added : ∀ (i : Nat) (later : RowMap), after.maps[i]? = some later → view.maps[i]? = none →
    ∃ width, later = (RowMap.withCapacity view.reserveColumns).setWidth width

namespace Grows

variable {view after : Viewport}

theorem of_maps_eq (hreserve : after.reserveColumns = view.reserveColumns)
    (hmaps : after.maps = view.maps) : view.Grows after where
  reserve := hreserve
  kept i map hmap := ⟨map, by rw [hmaps, hmap], .same⟩
  added i later hlater hnone := by
    rw [hmaps, hnone] at hlater
    cases hlater

theorem setWidth (view : Viewport) (width : Nat) : view.Grows (view.setWidth width) := by
  unfold Viewport.setWidth
  split
  · exact .of_maps_eq rfl rfl
  · refine ⟨rfl, fun i map hmap => ?_, fun i later hlater hnone => ?_⟩
    · exact ⟨map.setWidth width, by simp [hmap], .setWidth width⟩
    · simp [hnone] at hlater

theorem setRows (view : Viewport) (start size : Nat) : view.Grows (view.setRows start size) := by
  unfold Viewport.setRows
  refine ⟨rfl, fun i map hmap => ⟨map, ?_, .same⟩, fun i later hlater hnone => ?_⟩
  · rw [Array.getElem?_append_left (Array.getElem?_eq_some_iff.1 hmap).1, hmap]
  · rw [Array.getElem?_append_right (Array.getElem?_eq_none_iff.1 hnone)] at hlater
    exact ⟨view.frame.width, Array.eq_of_mem_replicate (Array.mem_of_getElem? hlater)⟩

theorem set (view : Viewport) (setting : Setting) : view.Grows (view.set setting) := by
  cases setting with
  | width width => exact .setWidth view width
  | rows start size => exact .setRows view start size
  | classifier classifier => exact .of_maps_eq rfl rfl
  | shaping shaping => exact .of_maps_eq rfl rfl
  | limit limit =>
    refine .of_maps_eq ?_ ?_
    all_goals
      unfold Viewport.set setLimit
      dsimp only
      split <;> rfl

end Grows

theorem IsSound.grows_recompute {view : Viewport} (h : view.IsSound)
    (hclassifier : view.frame.classifier.WellFormed) (source : RowSource) :
    view.Grows (view.recompute source) := by
  have hmaps (i : Nat) : (view.recompute source).maps[i]? = view.maps[i]?.map fun map =>
      (view.frame.pass source).layouts[i]?.elim map map.apply := by
    unfold recompute Viewport.accept
    rw [List.getElem?_toArray, getElem?_applyAll, Array.getElem?_toList]
  refine ⟨rfl, fun i map hmap => ?_, fun i later hlater hnone => ?_⟩
  · rw [hmaps, hmap]
    refine ⟨_, rfl, ?_⟩
    cases hlayout : (view.frame.pass source).layouts[i]? with
    | none => exact .same
    | some layout =>
      have hfits := h.fits map (Array.mem_of_getElem? hmap)
      have hbijection : layout.IsBijection view.frame.width :=
        Frame.completes_of_wellFormed hclassifier source layout (List.mem_of_getElem? hlayout)
      rw [← hfits.width_eq] at hbijection
      exact .apply layout (hfits.width_eq ▸ hfits.width_le) hbijection
  · rw [hmaps, hnone] at hlater
    cases hlater

theorem IsSound.grows_step {view : Viewport} (h : view.IsSound)
    (hclassifier : view.frame.classifier.WellFormed) (source : RowSource) (command : Command) :
    view.Grows (view.step source command) := by
  cases command with
  | set setting => exact .set view setting
  | invalidate => exact .of_maps_eq rfl rfl
  | update =>
    unfold Viewport.step Viewport.update
    dsimp only
    split
    · exact .of_maps_eq rfl rfl
    · exact h.grows_recompute hclassifier source
  | recompute => exact h.grows_recompute hclassifier source

/-! ## Storage after a history -/

/-- The number of rows that a command sets to be shown. -/
def Command.size? : Command → Option Nat
  | .set (.rows _ size) => some size
  | _ => none

/-- The classifier that a command sets to be used. -/
def Command.classifier? : Command → Option Classifier
  | .set (.classifier classifier) => some classifier
  | _ => none

/-- The sizes that a history sets. -/
def sizesOf (history : List (RowSource × Command)) : List Nat :=
  history.filterMap (·.2.size?)

/-- The classifiers that a history sets. -/
def classifiersOf (history : List (RowSource × Command)) : List Classifier :=
  history.filterMap (·.2.classifier?)

theorem forall_classifiersOf_cons {P : Classifier → Prop} {entry : RowSource × Command}
    {rest : List (RowSource × Command)} :
    (∀ used ∈ classifiersOf (entry :: rest), P used) ↔
      (∀ used, entry.2.classifier? = some used → P used) ∧
        ∀ used ∈ classifiersOf rest, P used := by
  unfold classifiersOf
  rw [List.filterMap_cons]
  cases entry.2.classifier? with
  | none => simp
  | some classifier =>
    rw [List.forall_mem_cons]
    simp

theorem capacity_setWidth (view : Viewport) (width : Nat) :
    (view.setWidth width).capacity = view.capacity := by
  unfold setWidth
  split
  · rfl
  · exact Array.size_map

theorem capacity_setRows (view : Viewport) (start size : Nat) :
    (view.setRows start size).capacity = grownCapacity size view.capacity := by
  have hgrown := le_grownCapacity_self size view.capacity
  simp only [setRows, capacity, grownTo, Array.size_append, Array.size_replicate] at hgrown ⊢
  omega

theorem capacity_step (source : RowSource) (view : Viewport) (command : Command) :
    (view.step source command).capacity =
      command.size?.elim view.capacity fun size => grownCapacity size view.capacity := by
  have hrecompute : (view.recompute source).capacity = view.capacity := by
    simp [capacity, recompute, accept, length_applyAll]
  cases command with
  | set setting =>
    cases setting with
    | width width => exact view.capacity_setWidth width
    | rows start size => exact view.capacity_setRows start size
    | classifier classifier => rfl
    | shaping shaping => rfl
    | limit limit =>
      simp only [step, set, setLimit]
      split <;> rfl
  | invalidate => rfl
  | update =>
    simp only [step, update]
    split
    · rfl
    · exact hrecompute
  | recompute => exact hrecompute

/-- No more maps are made than doubling takes to have one for each row that was ever shown. -/
theorem isLeast_capacity_replay {base : Nat} {needs : List Nat} {view : Viewport}
    (hbase : 0 < base) (h : IsLeast (capacitiesFor base needs) view.capacity)
    (history : List (RowSource × Command)) :
    IsLeast (capacitiesFor base (needs ++ sizesOf history)) (view.replay history).capacity := by
  induction history generalizing view needs with
  | nil =>
    have hnone : needs ++ sizesOf [] = needs := List.append_nil needs
    rw [hnone]
    exact h
  | cons entry rest ih =>
    have hstep := capacity_step entry.1 view entry.2
    cases hsize : entry.2.size? with
    | none =>
      have hsizes : sizesOf (entry :: rest) = sizesOf rest := List.filterMap_cons_none hsize
      rw [hsizes]
      refine ih ?_
      rw [hstep, hsize]
      exact h
    | some size =>
      have hsizes : sizesOf (entry :: rest) = [size] ++ sizesOf rest :=
        List.filterMap_cons_some hsize
      rw [hsizes, ← List.append_assoc]
      refine ih ?_
      rw [hstep, hsize]
      exact isLeast_grownCapacity hbase h size

/-- The storage of a viewport whose maps have room for `columns` columns at first, while it has
a classifier that keeps its promise. -/
structure IsStored (columns : Nat) (view : Viewport) : Prop where
  isSound : view.IsSound
  classifier : view.frame.classifier.WellFormed
  reserve : view.reserveColumns = columns
  maps : ∀ map ∈ view.maps, map.IsStored columns

namespace IsStored

variable {columns : Nat} {view : Viewport}

theorem new (options : ViewportOptions) {classifier : Classifier}
    (h : classifier.WellFormed) :
    IsStored (max 1 options.reserveColumns) (.new options classifier) where
  isSound := .new options classifier
  classifier := h
  reserve := rfl
  maps map hmap := by
    have hcapacity : RowMap.withCapacity options.reserveColumns =
        .withCapacity (max 1 options.reserveColumns) := by
      simp only [RowMap.withCapacity, ← Nat.max_assoc, Nat.max_self]
    rw [Array.eq_of_mem_replicate hmap, hcapacity]
    exact .withCapacity (by omega)

theorem step (h : IsStored columns view) (source : RowSource) (command : Command)
    (hcommand : ∀ classifier, command.classifier? = some classifier → classifier.WellFormed) :
    IsStored columns (view.step source command) := by
  have hgrows := h.isSound.grows_step h.classifier source command
  refine ⟨h.isSound.step source command, ?_, hgrows.reserve.trans h.reserve,
    fun later hlater => ?_⟩
  · have hused : (view.step source command).frame.classifier =
        command.classifier?.getD view.frame.classifier := by
      refine (congrArg Config.classifier (config_step source view command)).trans ?_
      cases command with
      | set setting => cases setting <;> rfl
      | _ => rfl
    rw [hused]
    cases hset : command.classifier? with
    | none => exact h.classifier
    | some classifier => exact hcommand classifier hset
  · obtain ⟨i, hi⟩ := Array.mem_iff_getElem?.1 hlater
    cases hmap : view.maps[i]? with
    | none =>
      obtain ⟨width, rfl⟩ := hgrows.added i later hi hmap
      rw [h.reserve]
      have hpos : 0 < columns := h.reserve ▸ h.isSound.reserve_pos
      exact (RowMap.IsStored.withCapacity hpos).evolve (.setWidth width)
    | some map =>
      obtain ⟨kept, hkept, hevolves⟩ := hgrows.kept i map hmap
      obtain rfl : kept = later := Option.some.inj (hkept.symm.trans hi)
      exact (h.maps map (Array.mem_of_getElem? hmap)).evolve hevolves

theorem replay (h : IsStored columns view) {history : List (RowSource × Command)}
    (hclassifiers : ∀ used ∈ classifiersOf history, used.WellFormed) :
    IsStored columns (view.replay history) := by
  induction history generalizing view with
  | nil => exact h
  | cons entry rest ih =>
    obtain ⟨hcommand, hrest⟩ := forall_classifiersOf_cons.1 hclassifiers
    exact ih (h.step entry.1 entry.2 hcommand) hrest

/-- No map is lost, and none has less storage later. -/
theorem exists_capacity_le (h : IsStored columns view) {history : List (RowSource × Command)}
    (hclassifiers : ∀ used ∈ classifiersOf history, used.WellFormed) {i : Nat} {map : RowMap}
    (hmap : view.maps[i]? = some map) :
    ∃ later, (view.replay history).maps[i]? = some later ∧ map.capacity ≤ later.capacity := by
  induction history generalizing view map with
  | nil => exact ⟨map, hmap, Nat.le_refl _⟩
  | cons entry rest ih =>
    obtain ⟨hcommand, hrest⟩ := forall_classifiersOf_cons.1 hclassifiers
    have hgrows := h.isSound.grows_step h.classifier entry.1 entry.2
    obtain ⟨next, hnext, hevolves⟩ := hgrows.kept i map hmap
    obtain ⟨later, hlater, hle⟩ := ih (h.step entry.1 entry.2 hcommand) hrest hnext
    exact ⟨later, hlater, Nat.le_trans hevolves.capacity_le hle⟩

theorem readsInside (h : IsStored columns view) {map : RowMap} (hmap : map ∈ view.maps) :
    map.ReadsInside := by
  have hfits := h.isSound.fits map hmap
  exact RowMap.readsInside (hfits.width_eq ▸ hfits.width_le) (h.maps map hmap).pointsInside

end IsStored

/-- After any history with classifiers that keep their promise, there are as many maps as
doubling takes for the largest size that was ever set, and no more.  Each is for a row of the
width, with storage that doubling gave it and that it never loses.  No query about a visible row
leaves the storage of its map, whether or not the map is that of the row as it is now. -/
theorem storage_replay (options : ViewportOptions) (classifier : Classifier)
    (history : List (RowSource × Command))
    (hclassifiers : ∀ used ∈ classifier :: classifiersOf history, used.WellFormed) :
    let view := (new options classifier).replay history
    IsLeast (capacitiesFor (max 1 options.reserveRows) (sizesOf history)) view.capacity ∧
      (∀ map ∈ view.maps, map.width = view.frame.width ∧ view.frame.width ≤ map.capacity ∧
        ∃ k, map.capacity = max 1 options.reserveColumns * 2 ^ k) ∧
      (∀ earlier, earlier <+: history → ∀ (i : Nat) (map : RowMap),
        ((new options classifier).replay earlier).maps[i]? = some map →
          ∃ later, view.maps[i]? = some later ∧ map.capacity ≤ later.capacity) ∧
      ∀ row, view.frame.shows row = true → ∃ map, view.rowMap? row = some map ∧
        map.ReadsInside := by
  intro view
  obtain ⟨hfirst, hset⟩ := List.forall_mem_cons.1 hclassifiers
  have hnew := IsStored.new options hfirst
  have hview : IsStored (max 1 options.reserveColumns) view := hnew.replay hset
  have hcapacity : (new options classifier).capacity = max 1 options.reserveRows :=
    Array.size_replicate
  refine ⟨?_, fun map hmap => ?_, ?_, fun row hrow => ?_⟩
  · have hleast := isLeast_capacitiesFor_nil (max 1 options.reserveRows)
    rw [← hcapacity] at hleast
    have hpos : 0 < (new options classifier).capacity := by omega
    have hreplay := isLeast_capacity_replay hpos hleast history
    rwa [hcapacity, List.nil_append] at hreplay
  · have hfits := hview.isSound.fits map hmap
    exact ⟨hfits.width_eq, hfits.width_le, (hview.maps map hmap).capacity_eq⟩
  · rintro earlier ⟨rest, rfl⟩ i map hmap
    have happend : classifiersOf (earlier ++ rest) = classifiersOf earlier ++ classifiersOf rest :=
      List.filterMap_append
    rw [happend] at hset
    obtain ⟨hearlier, hrest⟩ := List.forall_mem_append.1 hset
    have hsplit : view = ((new options classifier).replay earlier).replay rest :=
      List.foldl_append
    rw [hsplit]
    exact (hnew.replay hearlier).exists_capacity_le hrest hmap
  · obtain ⟨map, hmap, -⟩ := hview.isSound.exists_map hrow
    rw [Array.getElem?_toList] at hmap
    have hmem : map ∈ view.maps := Array.mem_of_getElem? hmap
    exact ⟨map, (rowMap?_of_shows hrow).trans hmap, hview.readsInside hmem⟩

/-- A viewport that was narrowed and moved after its last recompute.  The first column of the
row that it shows now was drawn at the right edge of a wider one. -/
theorem storage_replay_narrowed :
    let flags : DirectionFlags := { implicit := true, auto := true }
    let source := ((Scrollback.empty 4).appendText ['א', 'ב', 'a', 'b'] 4 flags).source
    let options : ViewportOptions := { reserveRows := 1, reserveColumns := 1 }
    let history : List (RowSource × Command) := [(source, .set (.width 4)),
      (source, .set (.rows 0 1)), (source, .recompute), (source, .set (.classifier .unicode)),
      (source, .set (.width 2)), (source, .set (.rows 1 3))]
    let view := (new options .unicode).replay history
    (∀ used ∈ .unicode :: classifiersOf history, used.WellFormed) ∧
      IsLeast (capacitiesFor 1 [1, 3]) view.capacity ∧
      ∃ map, view.rowMap? 1 = some map ∧ map.ReadsInside ∧ map.width = 2 ∧ map.capacity = 4 ∧
        map.toVisual 0 = 3 ∧ map.logicalDirection 0 = .rtl := by
  intro flags source options history view
  have hclassifiers : ∀ used ∈ .unicode :: classifiersOf history, used.WellFormed := by
    intro used hused
    obtain rfl : used = .unicode := by
      simpa [classifiersOf, history, Command.classifier?] using hused
    exact Classifier.wellFormed_unicode
  obtain ⟨hleast, -, -, hrows⟩ := storage_replay options .unicode history hclassifiers
  obtain ⟨map, hmap, hinside⟩ := hrows 1 rfl
  have hanswers : (view.rowMap? 1).map (fun map => (map.width, map.capacity, map.toVisual 0,
      map.logicalDirection 0)) = some (2, 4, 3, .rtl) := by
    decide +kernel
  rw [hmap] at hanswers
  simp only [Option.map_some, Option.some.injEq, Prod.mk.injEq] at hanswers
  exact ⟨hclassifiers, hleast, map, hmap, hinside, hanswers⟩

/-! ## Storage of a new viewport -/

/-- The maps of a new viewport have grown to the width from what the options reserve. -/
theorem capacity_of_mem_maps {options : ViewportOptions} {classifier : Classifier}
    {width start size : Nat} {map : RowMap}
    (hmap : map ∈ (((new options classifier).setWidth width).setRows start size).maps) :
    map.capacity = grownCapacity width (max 1 options.reserveColumns) := by
  have hcapacity (columns : Nat) : (RowMap.withCapacity columns).capacity = max 1 columns :=
    Array.size_replicate
  have hmaps : ∀ old ∈ ((new options classifier).setWidth width).maps,
      old.capacity = grownCapacity width (max 1 options.reserveColumns) := by
    intro old hold
    unfold setWidth at hold
    split at hold
    · next hwidth =>
      have hzero : width = 0 := hwidth
      rw [Array.eq_of_mem_replicate hold, hcapacity, hzero, grownCapacity_of_le (Nat.zero_le _)]
    · obtain ⟨first, hfirst, rfl⟩ := Array.mem_map.1 hold
      rw [RowMap.capacity_setWidth, Array.eq_of_mem_replicate hfirst, hcapacity]
  have hwidth : ((new options classifier).setWidth width).frame.width = width :=
    congrArg Config.width (config_set _ (.width width))
  have hreserve : ((new options classifier).setWidth width).reserveColumns =
      max 1 options.reserveColumns := by
    unfold setWidth
    split <;> rfl
  rcases Array.mem_append.1 hmap with hold | hadded
  · exact hmaps map hold
  · rw [Array.eq_of_mem_replicate hadded, RowMap.capacity_setWidth, hcapacity, hwidth, hreserve,
      ← Nat.max_assoc, Nat.max_self]

/-- Rows can be shown exactly if no storage of a new viewport that shows them is too large. -/
theorem isStorable_iff (options : ViewportOptions) (classifier : Classifier)
    (width start size : Nat) :
    let view := ((new options classifier).setWidth width).setRows start size
    isStorable options width size = true ↔
      (∀ map ∈ view.maps, map.capacity ≤ maxLength) ∧ view.capacity ≤ maxLength := by
  intro view
  have hsound : view.IsSound := ((IsSound.new options classifier).setWidth width).setRows start size
  have hmaps : (∀ map ∈ view.maps, map.capacity ≤ maxLength) ↔
      grownCapacity width (max 1 options.reserveColumns) ≤ maxLength := by
    constructor
    · intro h
      have hfirst := Array.getElem_mem hsound.size_pos
      exact capacity_of_mem_maps hfirst ▸ h _ hfirst
    · intro h map hmap
      rwa [capacity_of_mem_maps hmap]
  have hcount : view.capacity = grownCapacity size (max 1 options.reserveRows) := by
    have hnew : (new options classifier).capacity = max 1 options.reserveRows :=
      Array.size_replicate
    rw [capacity_setRows, capacity_setWidth, hnew]
  rw [hmaps, hcount, isStorable, Bool.and_eq_true, decide_eq_true_iff, decide_eq_true_iff]

end Viewport

end BidiViewport
