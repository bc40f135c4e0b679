import BidiViewport.Classifier.Unicode
import BidiViewport.Proofs.Viewport.History

/-!
# Freshness

A viewport over rows that do not change never shows anything stale: while it is valid it
answers like one that was made for what it is set to show, and did nothing before
(`Viewport.sameAnswers_fresh`).

* `Viewport.Config`: what a viewport is set to show.  Of several settings of one kind the
  last one counts (`Viewport.Config.get_setAll`), so different settings can be made in any
  order.
* `Viewport.IsSound.set_of_isValid`: a setting that leaves a viewport valid changes nothing.
* `Viewport.isCurrent_of_isValid`: what validity means, after any commands.
-/

namespace BidiViewport

namespace Viewport

/-! ## Configurations -/

inductive Setting.Kind
  | width
  | rows
  | classifier
  | shaping
  | limit
deriving DecidableEq

def Setting.kind : Setting → Kind
  | .width _ => .width
  | .rows _ _ => .rows
  | .classifier _ => .classifier
  | .shaping _ => .shaping
  | .limit _ => .limit

/-- The last setting of a kind. -/
def Setting.lastOf? (kind : Kind) (settings : List Setting) : Option Setting :=
  settings.reverse.find? (·.kind = kind)

/-- What a viewport is set to show. -/
structure Config where
  classifier : Classifier
  start : Nat
  size : Nat
  width : Nat
  /-- The limit asked for. -/
  limit : Nat
  shaping : Bool

def config (view : Viewport) : Config where
  classifier := view.frame.classifier
  start := view.frame.start
  size := view.frame.size
  width := view.frame.width
  limit := view.requestedLimit
  shaping := view.frame.shaping

namespace Config

/-- The frame to lay out. -/
def frame (config : Config) : Frame where
  classifier := config.classifier
  start := config.start
  size := config.size
  width := config.width
  limit := clampLimit config.limit config.width
  shaping := config.shaping

def set (config : Config) : Setting → Config
  | .width width => { config with width }
  | .rows start size => { config with start, size }
  | .classifier classifier => { config with classifier }
  | .shaping shaping => { config with shaping }
  | .limit limit => { config with limit }

/-- The setting of a kind that is in force. -/
def get (config : Config) : Setting.Kind → Setting
  | .width => .width config.width
  | .rows => .rows config.start config.size
  | .classifier => .classifier config.classifier
  | .shaping => .shaping config.shaping
  | .limit => .limit config.limit

theorem get_set (config : Config) (setting : Setting) (kind : Setting.Kind) :
    (config.set setting).get kind = if setting.kind = kind then setting else config.get kind := by
  cases setting <;> cases kind <;> rfl

theorem ext_get {a b : Config} (h : ∀ kind, a.get kind = b.get kind) : a = b := by
  have hwidth := h .width
  have hrows := h .rows
  have hclassifier := h .classifier
  have hshaping := h .shaping
  have hlimit := h .limit
  cases a
  cases b
  simp only [get, Setting.width.injEq, Setting.rows.injEq, Setting.classifier.injEq,
    Setting.shaping.injEq, Setting.limit.injEq] at hwidth hrows hclassifier hshaping hlimit
  simp only [mk.injEq]
  exact ⟨hclassifier, hrows.1, hrows.2, hwidth, hlimit, hshaping⟩

/-- Of several settings of a kind the last one is in force. -/
theorem get_setAll (config : Config) (settings : List Setting) (kind : Setting.Kind) :
    (settings.foldl set config).get kind =
      (Setting.lastOf? kind settings).getD (config.get kind) := by
  induction settings generalizing config with
  | nil => rfl
  | cons setting rest ih =>
    rw [List.foldl_cons, ih, get_set]
    unfold Setting.lastOf?
    rw [List.reverse_cons, List.find?_append, List.find?_singleton]
    cases rest.reverse.find? (·.kind = kind) with
    | some last => rfl
    | none =>
      by_cases hkind : setting.kind = kind
      · simp [hkind]
      · simp [hkind]

end Config

theorem config_set (view : Viewport) (setting : Setting) :
    (view.set setting).config = view.config.set setting := by
  cases setting with
  | width width =>
    unfold set setWidth
    dsimp only
    split
    · next hsame =>
      subst hsame
      rfl
    · rfl
  | limit limit =>
    unfold set setLimit
    dsimp only
    split
    · next hsame =>
      subst hsame
      rfl
    · rfl
  | rows start size => rfl
  | classifier classifier => rfl
  | shaping shaping => rfl

theorem config_foldl_set (view : Viewport) (settings : List Setting) :
    (settings.foldl set view).config = settings.foldl Config.set view.config := by
  induction settings generalizing view with
  | nil => rfl
  | cons setting rest ih => rw [List.foldl_cons, List.foldl_cons, ih, config_set]

theorem IsSound.foldl_set {view : Viewport} (h : view.IsSound) (settings : List Setting) :
    (settings.foldl Viewport.set view).IsSound := by
  induction settings generalizing view with
  | nil => exact h
  | cons setting rest ih => exact ih (h.set setting)

theorem IsSound.frame_eq {view : Viewport} (h : view.IsSound) : view.frame = view.config.frame := by
  have hlimit := h.limit_eq
  obtain ⟨⟨classifier, start, size, width, limit, shaping⟩, requestedLimit, _, _, _, _⟩ := view
  obtain rfl : limit = clampLimit requestedLimit width := hlimit
  rfl

/-! ## Validity -/

/-- A setting that leaves the viewport valid leaves it as it is. -/
theorem IsSound.set_of_isValid {view : Viewport} (h : view.IsSound) {setting : Setting}
    (hvalid : (view.set setting).isValid = true) : view.set setting = view := by
  cases setting with
  | width width =>
    unfold Viewport.set Viewport.setWidth at hvalid ⊢
    dsimp only at hvalid ⊢
    split at hvalid
    · next hsame => rw [if_pos hsame]
    · cases hvalid
  | limit limit =>
    unfold Viewport.set Viewport.setLimit at hvalid ⊢
    dsimp only at hvalid ⊢
    split at hvalid
    · next hsame => rw [if_pos hsame]
    · cases hvalid
  | classifier classifier => cases hvalid
  | shaping shaping =>
    obtain ⟨frame, requestedLimit, reserveColumns, maps, isValid, stats⟩ := view
    obtain ⟨rfl, rfl⟩ : isValid = true ∧ shaping = frame.shaping := by
      simpa [Viewport.set, setShaping] using hvalid
    simp [Viewport.set, setShaping]
  | rows start size =>
    have hgrown : view.grownTo view.frame.size = view.capacity := grownCapacity_of_le h.size_le
    obtain ⟨frame, requestedLimit, reserveColumns, maps, isValid, stats⟩ := view
    obtain ⟨⟨rfl, rfl⟩, rfl⟩ : (isValid = true ∧ start = frame.start) ∧ size = frame.size := by
      simpa [Viewport.set, Viewport.setRows] using hvalid
    simp [Viewport.set, Viewport.setRows, hgrown]

/-- The viewport is sound, and if it is valid its maps are those of the source. -/
structure IsTruthful (view : Viewport) (source : RowSource) : Prop where
  isSound : view.IsSound
  isCurrent : view.isValid = true → view.IsCurrent source

namespace IsTruthful

variable {view : Viewport} {source : RowSource}

theorem recompute (h : view.IsTruthful source) : (view.recompute source).IsTruthful source :=
  ⟨h.isSound.accept _, fun _ => h.isSound.isCurrent_recompute source⟩

theorem set (h : view.IsTruthful source) (setting : Setting) :
    (view.set setting).IsTruthful source := by
  refine ⟨h.isSound.set setting, fun hvalid => ?_⟩
  have hsame := h.isSound.set_of_isValid hvalid
  rw [hsame] at hvalid ⊢
  exact h.isCurrent hvalid

theorem update (h : view.IsTruthful source) : (view.update source).IsTruthful source := by
  unfold Viewport.update
  split
  · exact h
  · exact h.recompute

theorem step (h : view.IsTruthful source) (command : Command) :
    (view.step source command).IsTruthful source := by
  cases command with
  | set setting => exact h.set setting
  | invalidate => exact ⟨h.isSound.step source .invalidate, fun hvalid => by cases hvalid⟩
  | update => exact h.update
  | recompute => exact h.recompute

theorem replay (h : view.IsTruthful source) (commands : List Command) :
    (view.replay (commands.map (source, ·))).IsTruthful source := by
  induction commands generalizing view with
  | nil => exact h
  | cons command rest ih => exact ih (h.step command)

end IsTruthful

theorem isTruthful_new (options : ViewportOptions) (classifier : Classifier)
    (source : RowSource) : (new options classifier).IsTruthful source :=
  ⟨.new options classifier, fun hvalid => by cases hvalid⟩

/-! ## Viewports that answer alike -/

/-- Viewports that answer alike: the same configuration, the same account of the work, and
for each visible row a map in both, with the same answers. -/
structure SameAnswers (a b : Viewport) : Prop where
  config : a.config = b.config
  stats : a.stats = b.stats
  rowMap? : ∀ row, a.frame.shows row = true → ∃ mapA mapB, a.rowMap? row = some mapA ∧
    b.rowMap? row = some mapB ∧ mapA.Agree mapB

/-- Two sound viewports that are current for the same rows answer alike when they are set
to show the same. -/
theorem sameAnswers_of_isCurrent {a b : Viewport} {source : RowSource} (ha : a.IsSound)
    (hb : b.IsSound) (hconfig : a.config = b.config) (hcompletes : a.frame.Completes source)
    (hcurrentA : a.IsCurrent source) (hcurrentB : b.IsCurrent source) : a.SameAnswers b := by
  have hframe : a.frame = b.frame := by rw [ha.frame_eq, hb.frame_eq, hconfig]
  refine ⟨hconfig, ?_, fun row hrow => ?_⟩
  · rw [hcurrentA.stats, hcurrentB.stats, hframe]
  · refine hcurrentA.exists_agree hcurrentB (by rw [hframe]) hcompletes hrow ?_ ?_
    · rw [← hframe]
      exact hrow
    · rw [hframe]

theorem IsSound.sameAnswers_recompute {a b : Viewport} {source : RowSource} (ha : a.IsSound)
    (hb : b.IsSound) (hconfig : a.config = b.config) (hcompletes : a.frame.Completes source) :
    (a.recompute source).SameAnswers (b.recompute source) :=
  sameAnswers_of_isCurrent (ha.accept _) (hb.accept _) hconfig hcompletes
    (ha.isCurrent_recompute source) (hb.isCurrent_recompute source)

/-- A viewport that was made for a configuration and has done nothing but one recompute. -/
def fresh (config : Config) (reserveRows reserveColumns : Nat) (source : RowSource) : Viewport :=
  let options : ViewportOptions :=
    { limit := config.limit, shaping := config.shaping, reserveRows, reserveColumns }
  (((new options config.classifier).setWidth config.width).setRows config.start
    config.size).recompute source

theorem isSound_fresh (config : Config) (reserveRows reserveColumns : Nat) (source : RowSource) :
    (fresh config reserveRows reserveColumns source).IsSound :=
  (((IsSound.new _ _).setWidth _).setRows _ _).accept _

theorem isCurrent_fresh (config : Config) (reserveRows reserveColumns : Nat)
    (source : RowSource) : (fresh config reserveRows reserveColumns source).IsCurrent source :=
  (((IsSound.new _ _).setWidth _).setRows _ _).isCurrent_recompute source

theorem config_fresh (config : Config) (reserveRows reserveColumns : Nat) (source : RowSource) :
    (fresh config reserveRows reserveColumns source).config = config :=
  config_foldl_set (new _ config.classifier)
    [.width config.width, .rows config.start config.size]

/-- Validity means freshness.  A viewport over rows that do not change has had any
commands.  If it is valid, it answers like a fresh viewport of the same configuration; so
an update always leaves it so, recomputing again changes nothing, and of the settings made
before a recompute only the last one of each kind matters, not their order.

No classifier that keeps its promise makes an order fail the check of a map
(`Frame.completes_of_wellFormed`).  One that does has no answers to compare: an order that
is no bijection leaves slots of the row unwritten. -/
theorem sameAnswers_fresh (options : ViewportOptions) (classifier : Classifier)
    (source : RowSource) (commands : List Command) (reserveRows reserveColumns : Nat)
    (hcompletes : ((new options classifier).replay
      (commands.map (source, ·))).frame.Completes source) :
    let view := (new options classifier).replay (commands.map (source, ·))
    let other := fresh view.config reserveRows reserveColumns source
    (view.isValid = true → view.SameAnswers other) ∧
      (view.update source).SameAnswers other ∧
      ((view.recompute source).recompute source).SameAnswers (view.recompute source) ∧
      ∀ settings settings' : List Setting,
        (∀ kind, Setting.lastOf? kind settings = Setting.lastOf? kind settings') →
        (settings.foldl set view).frame.Completes source →
        ((settings.foldl set view).recompute source).SameAnswers
          ((settings'.foldl set view).recompute source) := by
  intro view other
  have htruthful : view.IsTruthful source :=
    (isTruthful_new options classifier source).replay commands
  have hsound := htruthful.isSound
  have hfresh {a : Viewport} (ha : a.IsSound) (hcurrent : a.IsCurrent source)
      (hconfig : a.config = view.config) : a.SameAnswers other := by
    have hframe : a.frame = view.frame := by rw [ha.frame_eq, hsound.frame_eq, hconfig]
    refine sameAnswers_of_isCurrent ha (isSound_fresh ..) ?_ ?_ hcurrent (isCurrent_fresh ..)
    · rw [config_fresh, hconfig]
    · rw [hframe]
      exact hcompletes
  refine ⟨fun hvalid => ?_, ?_, ?_, fun settings settings' hlast hcompletes' => ?_⟩
  · exact hfresh hsound (htruthful.isCurrent hvalid) rfl
  · unfold update
    split
    · next hvalid => exact hfresh hsound (htruthful.isCurrent hvalid) rfl
    · exact hfresh (hsound.accept _) (hsound.isCurrent_recompute source) rfl
  · exact IsSound.sameAnswers_recompute (hsound.accept _) hsound rfl hcompletes
  · refine IsSound.sameAnswers_recompute (hsound.foldl_set settings) (hsound.foldl_set settings')
      (Config.ext_get fun kind => ?_) hcompletes'
    rw [config_foldl_set, config_foldl_set, Config.get_setAll, Config.get_setAll, hlast kind]

/-- After a change back and forth, the narrow layout is not what is shown. -/
theorem sameAnswers_fresh_rewidened :
    let flags : DirectionFlags := { implicit := true, auto := true }
    let source := ((Scrollback.empty 4).appendText ['a', 'א', '1', ' ', 'ב', 'c'] 3 flags).source
    let view := (new {} .unicode).replay ([.set (.width 2), .set (.rows 0 2), .recompute,
      .set (.width 3), .set (.shaping false), .update, .set (.rows 0 2)].map (source, ·))
    view.frame.Completes source ∧ view.isValid = true ∧
      view.SameAnswers (fresh view.config 1 1 source) := by
  intro flags source view
  have hcompletes : view.frame.Completes source :=
    Frame.completes_of_wellFormed Classifier.wellFormed_unicode source
  refine ⟨hcompletes, rfl, ?_⟩
  exact (sameAnswers_fresh {} .unicode source [.set (.width 2), .set (.rows 0 2), .recompute,
    .set (.width 3), .set (.shaping false), .update, .set (.rows 0 2)] 1 1 hcompletes).1 rfl

end Viewport

end BidiViewport
