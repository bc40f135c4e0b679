import BidiViewport.Classifier.Unicode
import BidiViewport.Proofs.Layout.Placement
import BidiViewport.Proofs.Viewport.History

/-!
# Rows of one chain

A chain of rows is never split on the screen.  Whatever its rows ask for, and wherever the
viewport begins in it, two of its rows that follow each other are drawn in one direction, and
both are marked as mixed or none is.

When the whole chain asks for the bidirectional algorithm in a fixed direction, this is the
direction that its first row declares, whether the paragraph is analysed in the end or not.
-/

namespace BidiViewport

/-- The classifier takes a fixed paragraph direction as it is given. -/
def Classifier.HonoursBase (c : Classifier) : Prop :=
  ∀ (text : List Char) (direction : Direction) (a : Analysis),
    c.analyze text (.fixed direction) = .ok a → a.direction = direction

theorem Classifier.honoursBase_unicode : Classifier.unicode.HonoursBase := by
  intro text direction a h
  obtain rfl := eq_analysis_of_analyze h
  rfl

namespace Chain

/-- A whole chain that begins with the row `content` at `head`.  All its rows ask for the
bidirectional algorithm, and its first row does not leave the direction open. -/
structure IsFixed (source : RowSource) (head : Nat) (content : Row) : Prop where
  rowAt : source.rowAt head = some content
  /-- A source has no row above the first one that it keeps. -/
  firstRow_le : source.firstRow ≤ head
  isWrapped_above : ∀ above, above + 1 = head → source.isWrapped above = false
  auto : content.flags.auto = false
  implicit : ∀ row later, Leads source head row → source.rowAt row = some later →
    later.flags.implicit = true

theorem IsFixed.base? {source : RowSource} {head : Nat} {content : Row}
    (h : IsFixed source head content) :
    content.flags.mode.base? = some (.fixed content.flags.declared) := by
  have himplicit := h.implicit head content (.refl source head) h.rowAt
  unfold DirectionFlags.mode
  rw [himplicit, h.auto]
  rfl

end Chain

namespace Frame

variable {frame : Frame} {source : RowSource} {head row : Nat} {content : Row}

/-- A paragraph that asks for a fixed direction runs in it, on whatever path it is laid out. -/
theorem direction_prepare (hclassifier : frame.classifier.HonoursBase)
    (hcontent : source.rowAt row = some content)
    (hbase : content.flags.mode.base? = some (.fixed content.flags.declared)) :
    (frame.prepare source row).verdict.direction = content.flags.declared := by
  have hprepares := frame.prepares source row
  generalize frame.prepare source row = prepared at hprepares ⊢
  cases hprepares with
  | missing hrow =>
    rw [hrow] at hcontent
    cases hcontent
  | explicit hrow | unavailable hrow =>
    obtain rfl := Option.some.inj (hcontent.symm.trans hrow)
    rfl
  | overlong hasks | blank hasks | failed hasks =>
    obtain rfl := Option.some.inj (hcontent.symm.trans hasks.rowAt)
    rfl
  | analysed hasks _ _ hanalysis =>
    obtain rfl := Option.some.inj (hcontent.symm.trans hasks.rowAt)
    obtain rfl := Option.some.inj (hbase.symm.trans hasks.base?)
    exact hclassifier _ _ _ hanalysis

/-- A pass that shows a row of such a chain begins at or above its first row. -/
theorem first_le_of_isFixed (hchain : Chain.IsFixed source head content)
    (hleads : Chain.Leads source head row) (hrow : (source.rowAt row).isSome = true)
    (hshows : frame.shows row = true) (hlimit : frame.start < head + frame.limit) :
    frame.first source ≤ head := by
  have hfirst := frame.first_le source
  have hstart := (shows_iff.1 hshows).1
  by_cases hbelow : frame.start ≤ head
  · omega
  · have hlater : Chain.Leads source head frame.start :=
      ⟨by omega, fun above hhead habove => hleads.isWrapped above hhead (by omega)⟩
    have hpresent : (source.rowAt frame.start).isSome = true := by
      rcases Nat.eq_or_lt_of_le hstart with heq | hlt
      · rwa [heq]
      · exact hleads.isSome (by omega) hlt
    obtain ⟨other, hother⟩ := Option.isSome_iff_exists.1 hpresent
    have hseeks : frame.seeksHead source = true := by
      unfold seeksHead
      rw [hother]
      exact hchain.implicit _ _ hlater hother
    unfold Frame.first head?
    rw [if_pos hseeks,
      Chain.head?_of_leads hchain.firstRow_le hchain.isWrapped_above hlater hlimit]
    exact Nat.le_refl head

theorem isHeadOf_of_isFixed (hchain : Chain.IsFixed source head content)
    (hleads : Chain.Leads source head row) (hrow : (source.rowAt row).isSome = true)
    (hshows : frame.shows row = true) (hlimit : frame.start < head + frame.limit) :
    frame.IsHeadOf source head row := by
  have hfirst := first_le_of_isFixed hchain hleads hrow hshows hlimit
  refine ⟨hfirst, ?_, hleads⟩
  rcases Nat.eq_or_lt_of_le hfirst with heq | hlt
  · exact .inl heq.symm
  · exact .inr (hchain.isWrapped_above _ (by omega))

end Frame

namespace Viewport

variable {view : Viewport} {source : RowSource} {head row : Nat}

/-- What a recompute says of the direction of a row is what its paragraph was laid out in. -/
theorem IsSound.exists_map_of_isHeadOf (h : view.IsSound)
    (hhead : view.frame.IsHeadOf source head row) (hshows : view.frame.shows row = true)
    (hrow : (source.rowAt row).isSome = true) :
    ∃ map, (view.recompute source).rowMap? row = some map ∧
      map.direction = (view.frame.prepare source head).verdict.direction ∧
      map.hasForeign = (view.frame.prepare source head).verdict.isMixed := by
  obtain ⟨map, layout, -, hlayout, hmap⟩ := h.rowMap?_recompute source hshows
  obtain ⟨layout', hlayout', hdirection, hforeign⟩ := hhead.exists_layout hshows hrow
  obtain rfl : layout = layout' := Option.some.inj (hlayout.symm.trans hlayout')
  refine ⟨map.apply layout, hmap, ?_, ?_⟩
  · rw [RowMap.direction_apply, hdirection]
  · rw [RowMap.hasForeign_apply, hforeign]

/-- Rows of one chain that follow each other have the same direction, and both or none are
marked as mixed.  If the chain asks for the bidirectional algorithm in a fixed direction, and
its first row is visible or less than the limit above the viewport, all its visible rows have
the direction that its first row declares. -/
theorem direction_recompute (hview : view.IsReachable) (source : RowSource) :
    (∀ row, view.frame.shows row = true → view.frame.shows (row + 1) = true →
      source.isWrapped row = true → (source.rowAt (row + 1)).isSome = true →
      ∃ map next, (view.recompute source).rowMap? row = some map ∧
        (view.recompute source).rowMap? (row + 1) = some next ∧
        map.direction = next.direction ∧ map.hasForeign = next.hasForeign) ∧
    ∀ head content row, Chain.IsFixed source head content → Chain.Leads source head row →
      (source.rowAt row).isSome = true → view.frame.shows row = true →
      view.frame.start ≤ head + (view.frame.limit - 1) → view.frame.classifier.HonoursBase →
      ∃ map, (view.recompute source).rowMap? row = some map ∧
        map.direction = .ofBool content.flags.rtl := by
  have hsound := hview.isSound
  have hlimit := hsound.limit_pos
  refine ⟨fun row hshows hnext hwrapped hpresent => ?_,
    fun head content row hchain hleads hrow hshows hnear hclassifier => ?_⟩
  · have hrow := source.isSome_of_isWrapped hwrapped
    obtain ⟨head, htakes, -⟩ := Frame.exists_takes source hshows
    have hhead := htakes.isHeadOf (htakes.leads.isSome_head hrow)
    obtain ⟨map, hmap, hdirection, hforeign⟩ := hsound.exists_map_of_isHeadOf hhead hshows hrow
    obtain ⟨next, hmap', hdirection', hforeign'⟩ :=
      hsound.exists_map_of_isHeadOf (hhead.succ hwrapped) hnext hpresent
    exact ⟨map, next, hmap, hmap', hdirection.trans hdirection'.symm,
      hforeign.trans hforeign'.symm⟩
  · have hhead := Frame.isHeadOf_of_isFixed hchain hleads hrow hshows (by omega)
    obtain ⟨map, hmap, hdirection, -⟩ := hsound.exists_map_of_isHeadOf hhead hshows hrow
    refine ⟨map, hmap, hdirection.trans ?_⟩
    exact Frame.direction_prepare hclassifier hchain.rowAt hchain.base?

/-- A chain of more rows than the limit, one of them above the viewport; its second row
declares another direction. -/
theorem direction_recompute_overlong :
    let head : Row := { cells := #[.leader 'a' [] 1], softWrapped := true,
                        flags := { implicit := true, rtl := true } }
    let later : Row := { cells := #[.leader 'א' [] 1], softWrapped := true,
                         flags := { implicit := true, auto := true } }
    let last : Row := { cells := #[.leader '1' [] 1], flags := { implicit := true } }
    let source := ((Scrollback.empty 4).extend [last, head, later, last]).source
    let view := (new {} .unicode).replay [(source, .set (.width 3)), (source, .set (.rows 2 2)),
      (source, .set (.limit 2))]
    view.IsReachable ∧ Chain.IsFixed source 1 head ∧ Chain.Leads source 1 3 ∧
      view.frame.classifier.HonoursBase ∧ ∃ map next,
        (view.recompute source).rowMap? 2 = some map ∧
        (view.recompute source).rowMap? 3 = some next ∧ map.hasForeign = next.hasForeign ∧
        map.direction = next.direction ∧ next.direction = .rtl := by
  intro head later last source view
  have hview : view.IsReachable := ⟨{}, .unicode, _, rfl⟩
  have hclassifier : view.frame.classifier.HonoursBase := Classifier.honoursBase_unicode
  have hleads : Chain.Leads source 1 3 := by
    refine ((Chain.Leads.refl source 1).succ ?_).succ ?_ <;> decide
  have hfixed : Chain.IsFixed source 1 head := by
    refine ⟨by decide, by decide, fun above h => ?_, rfl, fun row other hrow hother => ?_⟩
    · obtain rfl : above = 0 := Nat.succ.inj h
      decide
    · have hlt : row < 4 := Scrollback.lt_nextRow_of_rowAt hother
      have hle := hrow.le
      obtain rfl | rfl | rfl : row = 1 ∨ row = 2 ∨ row = 3 := by omega
      · obtain rfl : head = other := Option.some.inj hother
        rfl
      · obtain rfl : later = other := Option.some.inj hother
        rfl
      · obtain rfl : last = other := Option.some.inj hother
        rfl
  obtain ⟨hpairs, hchains⟩ := direction_recompute hview source
  obtain ⟨map, next, hmap, hnext, hdirection, hforeign⟩ :=
    hpairs 2 (by decide) (by decide) (by decide) (by decide)
  obtain ⟨next', hnext', hrtl⟩ := hchains 1 head 3 hfixed hleads (by decide) (by decide)
    (by decide) hclassifier
  obtain rfl : next = next' := Option.some.inj (hnext.symm.trans hnext')
  exact ⟨hview, hfixed, hleads, hclassifier, map, next, hmap, hnext, hforeign, hdirection, hrtl⟩

end Viewport

end BidiViewport
