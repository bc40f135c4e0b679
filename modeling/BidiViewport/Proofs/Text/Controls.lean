import BidiViewport.Mirror
import BidiViewport.Shaping.Form
import BidiViewport.Text.Blank
import BidiViewport.Text.Cluster

/-!
# Control characters

A control character is in a cluster of its own, but for a carriage return that is followed by a
line feed (`standsAlone_of_mem_clusters`).  So a cell whose character is not a control has no
mark that is one.  Nor does drawing a character bring in a control: presentation forms and mirror
images are never controls.
-/

namespace BidiViewport

theorem isControl_iff {c : Char} :
    isControl c = true ↔ c.toNat ≤ 0x1F ∨ 0x7F ≤ c.toNat ∧ c.toNat ≤ 0x9F := by
  unfold isControl
  simp only [Bool.or_eq_true, Bool.and_eq_true, decide_eq_true_eq]

theorem lt_of_isControl {c : Char} (h : isControl c = true) : c.toNat < 160 := by
  have hcode := isControl_iff.1 h
  omega

namespace ClusterBreak

theorem isControl_of {c : Char} (h : BidiViewport.isControl c = true) :
    (of c).isControl = true := by
  have hcodes : ∀ code < 160, BidiViewport.isControl (.ofNat code) = true →
      (of (.ofNat code)).isControl = true := by decide +kernel
  have hcode := hcodes c.toNat (lt_of_isControl h)
  rw [Char.ofNat_toNat] at hcode
  exact hcode h

theorem exists_range_of {c : Char} (h : (of c).isControl = true) :
    ∃ range ∈ table.ranges, range.first ≤ c.toNat ∧ c.toNat ≤ range.last ∧
      range.value = of c := by
  unfold of at h ⊢
  split
  · next hjoiner =>
    rw [if_pos hjoiner] at h
    cases h
  · next hjoiner =>
    rw [if_neg hjoiner] at h
    split
    · next hsyllable =>
      rw [if_pos hsyllable] at h
      split at h
      · cases h
      · cases h
    · next hsyllable =>
      rw [if_neg hsyllable] at h
      cases hvalue : table.value? c with
      | none =>
        rw [hvalue] at h
        cases h
      | some value => exact RangeTable.value?_mem hvalue

/-- The two line ends have a class each. -/
theorem eq_of_of_eq {b : ClusterBreak} (code : Nat) (hcontrol : b.isControl = true)
    (hranges : table.ranges.toList.all
      (fun range => range.value != b || (range.first == code && range.last == code)) = true)
    {c : Char} (h : of c = b) : c = .ofNat code := by
  subst h
  obtain ⟨range, hmem, hfirst, hlast, hvalue⟩ := exists_range_of hcontrol
  have hrange := List.all_eq_true.1 hranges range (Array.mem_toList_iff.2 hmem)
  simp only [hvalue, bne_self_eq_false, Bool.false_or, Bool.and_eq_true, beq_iff_eq] at hrange
  rw [show code = c.toNat by omega, Char.ofNat_toNat]

theorem eq_return {c : Char} (h : of c = .carriageReturn) : c = '\r' :=
  eq_of_of_eq 13 rfl (by decide +kernel) h

theorem eq_lineFeed {c : Char} (h : of c = .lineFeed) : c = '\n' :=
  eq_of_of_eq 10 rfl (by decide +kernel) h

end ClusterBreak

namespace Cluster

/-- The cluster read so far, the last character first, with its control characters. -/
inductive Reading.Alone (r : Reading) : List Char → Prop
  | plain {c : Char} {earlier : List Char} (hlast : r.last = .of c)
      (h : ∀ d ∈ c :: earlier, isControl d = false) : Alone r (c :: earlier)
  | control {c : Char} (hlast : r.last = .of c) (h : isControl c = true) : Alone r [c]
  | lineBreak (hlast : r.last = .lineFeed) : Alone r ['\n', '\r']

namespace Reading

theorem alone_start (c : Char) : (start (.of c)).Alone [c] := by
  cases hcontrol : isControl c with
  | true => exact .control rfl hcontrol
  | false =>
    refine .plain rfl ?_
    intro d hd
    obtain rfl := List.mem_singleton.1 hd
    exact hcontrol

/-- Only a line feed joins a control character, and only a carriage return. -/
theorem joins_cases {r : Reading} {b : ClusterBreak} (h : r.joins b = true) :
    (r.last = .carriageReturn ∧ b = .lineFeed) ∨
      (r.last.isControl = false ∧ b.isControl = false) := by
  unfold joins at h
  split at h
  · next hbreak => exact .inl hbreak
  · split at h
    · cases h
    · next hcontrol =>
      rw [Bool.not_eq_true, Bool.or_eq_false_iff] at hcontrol
      exact .inr hcontrol

theorem last_push (r : Reading) (b : ClusterBreak) : (r.push b).last = b := rfl

theorem Alone.push {r : Reading} {cluster : List Char} (h : r.Alone cluster) {c : Char}
    (hjoins : r.joins (.of c) = true) : (r.push (.of c)).Alone (c :: cluster) := by
  rcases joins_cases hjoins with ⟨hreturn, hfeed⟩ | ⟨hlast, hown⟩
  · obtain rfl := ClusterBreak.eq_lineFeed hfeed
    cases h with
    | plain hlast hplain =>
      obtain rfl := ClusterBreak.eq_return (hlast.symm.trans hreturn)
      exact absurd (hplain '\r' List.mem_cons_self) (by decide)
    | control hlast _ =>
      obtain rfl := ClusterBreak.eq_return (hlast.symm.trans hreturn)
      exact .lineBreak ((last_push r _).trans hfeed)
    | lineBreak hlast =>
      rw [hlast] at hreturn
      cases hreturn
  · cases h with
    | plain _ hplain =>
      refine .plain rfl (List.forall_mem_cons.2 ⟨?_, hplain⟩)
      cases hcontrol : isControl c with
      | false => rfl
      | true =>
        rw [ClusterBreak.isControl_of hcontrol] at hown
        cases hown
    | control hclass hcontrol =>
      rw [hclass, ClusterBreak.isControl_of hcontrol] at hlast
      cases hlast
    | lineBreak hclass =>
      rw [hclass] at hlast
      cases hlast

end Reading

end Cluster

/-- The characters are no controls, or one alone, or a line break. -/
def StandsAlone (cluster : List Char) : Prop :=
  (∀ c ∈ cluster, isControl c = false) ∨ (∃ c, cluster = [c]) ∨ cluster = ['\r', '\n']

theorem Cluster.Reading.Alone.standsAlone {r : Reading} {cluster : List Char}
    (h : r.Alone cluster) : StandsAlone cluster.reverse := by
  cases h with
  | plain _ hplain =>
    refine .inl ?_
    intro c hc
    exact hplain c (List.mem_reverse.1 hc)
  | control _ _ => exact .inr (.inl ⟨_, rfl⟩)
  | lineBreak _ => exact .inr (.inr rfl)

theorem Cluster.standsAlone_of_mem_clustersFrom {r : Reading} {cluster rest g : List Char}
    (h : r.Alone cluster) (hmem : g ∈ clustersFrom r cluster rest) : StandsAlone g := by
  induction rest generalizing r cluster with
  | nil =>
    obtain rfl := List.mem_singleton.1 hmem
    exact h.standsAlone
  | cons c rest ih =>
    unfold clustersFrom at hmem
    split at hmem
    · next hjoins => exact ih (h.push hjoins) hmem
    · rcases List.mem_cons.1 hmem with rfl | hlater
      · exact h.standsAlone
      · exact ih (Reading.alone_start c) hlater

/-- A control character shares its cluster with nothing, but for a carriage return and the line
feed behind it. -/
theorem standsAlone_of_mem_clusters {text g : List Char} (h : g ∈ clusters text) :
    StandsAlone g := by
  cases text with
  | nil => cases h
  | cons c rest => exact Cluster.standsAlone_of_mem_clustersFrom (Cluster.Reading.alone_start c) h

theorem Forms.isControl_glyph {c : Char} {forms : Forms} (h : of? c = some forms) (form : Form) :
    isControl (forms.glyph form) = false := by
  have htable : ∀ entry ∈ table, isControl entry.2.isolated = false ∧
      isControl entry.2.final = false ∧ isControl entry.2.initial = false ∧
      isControl entry.2.medial = false := by decide +kernel
  obtain ⟨hisolated, hfinal, hinitial, hmedial⟩ := htable _ (mem_table h)
  cases form with
  | isolated => exact hisolated
  | final => exact hfinal
  | initial => exact hinitial
  | medial => exact hmedial

theorem MirrorGlyph.isControl_of_of? {c glyph : Char} (h : of? c = some glyph) :
    isControl glyph = false := by
  have htwo : ∀ pair ∈ twoSided, isControl (.ofNat pair.1) = false ∧
      isControl (.ofNat pair.2) = false := by decide +kernel
  have hone : ∀ pair ∈ oneSided, isControl (.ofNat pair.2) = false := by decide +kernel
  obtain ⟨code, hcode, rfl⟩ := Option.map_eq_some_iff.1 h
  unfold ofCode? at hcode
  rw [Option.orElse_eq_orElse, Option.orElse_eq_or] at hcode
  rcases Option.or_eq_some_iff.1 hcode with hfound | ⟨-, hfound⟩
  · obtain ⟨pair, hpair, himage⟩ := List.exists_of_findSome?_eq_some hfound
    dsimp only at himage
    split at himage
    · obtain rfl := Option.some.inj himage
      exact (htwo pair hpair).2
    · split at himage
      · obtain rfl := Option.some.inj himage
        exact (htwo pair hpair).1
      · cases himage
  · obtain ⟨pair, hpair, himage⟩ := List.exists_of_findSome?_eq_some hfound
    dsimp only at himage
    split at himage
    · obtain rfl := Option.some.inj himage
      exact hone pair hpair
    · cases himage

/-- The images of the whole block are tabulated, since opening `BoxDrawing.mirror?` makes the
kernel count up to the block. -/
theorem BoxDrawing.isControl_of_mirror? {c glyph : Char} (hblock : contains c = true)
    (h : mirror? c = some glyph) : isControl glyph = false := by
  have htable : ∀ position < count,
      (mirror? (.ofNat (first + position))).all (fun image => !isControl image) = true := by
    decide +kernel
  obtain ⟨hfirst, hcount⟩ : first ≤ c.toNat ∧ c.toNat < first + count := by
    simpa only [contains, Bool.and_eq_true, decide_eq_true_eq] using hblock
  obtain ⟨position, hposition⟩ := Nat.exists_eq_add_of_le hfirst
  have himage := htable position (by omega)
  rw [← hposition, Char.ofNat_toNat, h, Option.all_some, Bool.not_eq_true'] at himage
  exact himage

theorem isControl_of_mirror? {c glyph : Char} {boxes : Bool} {classifier : Classifier}
    (hclassifier : classifier.mirror = MirrorGlyph.of?)
    (h : mirror? c boxes (some classifier) = some glyph) : isControl glyph = false := by
  unfold mirror? at h
  split at h
  · next hblock =>
    split at h
    · exact BoxDrawing.isControl_of_mirror? hblock h
    · cases h
  · obtain ⟨himage, -⟩ := Option.filter_eq_some_iff.1 h
    dsimp only at himage
    rw [hclassifier] at himage
    exact MirrorGlyph.isControl_of_of? himage

end BidiViewport
