import BidiViewport.Shaping.Shape

/-!
# Neighbours of letters

Which characters of a text join, said of the text alone: `LeveledText.JoinedBefore` and
`LeveledText.JoinedAfter` name the neighbours of a letter by their indices.  Shaping looks for
them from the letter on, away from it on both sides; `LeveledText.joinedBefore_iff` and
`LeveledText.joinedAfter_iff` are that it finds them.
-/

namespace BidiViewport

namespace LeveledText

/-- How the character at an index joins. -/
def typeAt? (text : LeveledText) (i : Nat) : Option JoiningType :=
  text[i]?.map fun entry => .of entry.1

/-- Only marks stand between two characters, and all of these are at one level. -/
structure Adjoins (text : LeveledText) (i j : Nat) : Prop where
  lt : i < j
  marks : ∀ k, i < k → k < j → text.typeAt? k = some .transparent
  level : ∃ level, ∀ k, i ≤ k → k ≤ j → ∃ c, text[k]? = some (c, level)

/-- The nearest character before `i` that is no mark, if the level stays the same up to it. -/
def IsPredecessor (text : LeveledText) (p i : Nat) : Prop :=
  text.Adjoins p i ∧ text.typeAt? p ≠ some .transparent

/-- The nearest character after `i` that is no mark, if the level stays the same up to it. -/
def IsSuccessor (text : LeveledText) (s i : Nat) : Prop :=
  text.Adjoins i s ∧ text.typeAt? s ≠ some .transparent

/-- The character at `i` is joined to its predecessor. -/
def JoinedBefore (text : LeveledText) (i : Nat) : Prop :=
  ∃ p, text.IsPredecessor p i ∧
    (text.typeAt? p = some .dual ∨ text.typeAt? p = some .causing)

/-- The character at `i` is joined to its successor. -/
def JoinedAfter (text : LeveledText) (i : Nat) : Prop :=
  text.typeAt? i = some .dual ∧ ∃ s, text.IsSuccessor s i ∧
    (text.typeAt? s = some .dual ∨ text.typeAt? s = some .right ∨
      text.typeAt? s = some .causing)

/-- All characters are marks of one level. -/
def AreMarks (level : Nat) (marks : LeveledText) : Prop :=
  ∀ mark ∈ marks, JoiningType.of mark.1 = .transparent ∧ mark.2 = level

/-! ## Splitting a text at two characters -/

variable {text front marks rest : LeveledText} {a b c : Char} {level : Nat}

theorem typeAt?_of_split (h : text = front ++ (c, level) :: rest) :
    text.typeAt? front.length = some (.of c) := by
  simp [h, typeAt?]

theorem adjoins_of_split (h : text = front ++ (a, level) :: marks ++ (b, level) :: rest)
    (hmarks : AreMarks level marks) :
    text.Adjoins front.length (front ++ (a, level) :: marks).length := by
  have hlength : (front ++ (a, level) :: marks).length = front.length + (marks.length + 1) := by
    simp
  have hmark : ∀ k, front.length < k → k < (front ++ (a, level) :: marks).length →
      ∃ mark ∈ marks, text[k]? = some mark := by
    intro k hlow hhigh
    obtain ⟨d, rfl⟩ : ∃ d, k = front.length + (d + 1) := ⟨k - front.length - 1, by omega⟩
    have hd : d < marks.length := by omega
    refine ⟨marks[d], List.getElem_mem hd, ?_⟩
    rw [h, List.getElem?_append_left hhigh, List.getElem?_append_right (by omega),
      Nat.add_sub_cancel_left, List.getElem?_cons_succ, List.getElem?_eq_getElem hd]
  refine ⟨by omega, ?_, level, ?_⟩
  · intro k hlow hhigh
    obtain ⟨mark, hmem, hk⟩ := hmark k hlow hhigh
    rw [typeAt?, hk, Option.map_some, (hmarks mark hmem).1]
  · intro k hlow hhigh
    rcases Nat.eq_or_lt_of_le hlow with rfl | hlow
    · exact ⟨a, by simp [h]⟩
    · rcases Nat.eq_or_lt_of_le hhigh with rfl | hhigh
      · exact ⟨b, by rw [h, List.getElem?_append_right (Nat.le_refl _), Nat.sub_self]; rfl⟩
      · obtain ⟨mark, hmem, hk⟩ := hmark k hlow hhigh
        exact ⟨mark.1, by rw [hk, ← (hmarks mark hmem).2]⟩

theorem AreMarks.reverse (h : AreMarks level marks) : AreMarks level marks.reverse :=
  fun mark hmark => h mark (List.mem_reverse.1 hmark)

/-- Two characters that adjoin split the text. -/
theorem Adjoins.exists_split {i j : Nat} (h : text.Adjoins i j) :
    ∃ front a marks b rest level, text = front ++ (a, level) :: marks ++ (b, level) :: rest ∧
      front.length = i ∧ (front ++ (a, level) :: marks).length = j ∧ AreMarks level marks := by
  obtain ⟨hlt, hbetween, level, hlevel⟩ := h
  obtain ⟨a, ha⟩ := hlevel i (Nat.le_refl i) (Nat.le_of_lt hlt)
  obtain ⟨b, hb⟩ := hlevel j (Nat.le_of_lt hlt) (Nat.le_refl j)
  obtain ⟨hi, hgeti⟩ := List.getElem?_eq_some_iff.1 ha
  obtain ⟨hj, hgetj⟩ := List.getElem?_eq_some_iff.1 hb
  have hfront : text.take i ++ (a, level) :: (text.drop (i + 1)).take (j - i - 1) =
      text.take j := by
    rw [← hgeti, ← List.take_succ_cons, ← List.drop_eq_getElem_cons hi, ← List.take_add]
    congr 1
    omega
  refine ⟨text.take i, a, (text.drop (i + 1)).take (j - i - 1), b, text.drop (j + 1), level, ?_, ?_,
    ?_, ?_⟩
  · rw [hfront, ← hgetj, ← List.drop_eq_getElem_cons hj, List.take_append_drop]
  · exact List.length_take_of_le (Nat.le_of_lt hi)
  · rw [hfront]
    exact List.length_take_of_le (Nat.le_of_lt hj)
  · intro mark hmem
    obtain ⟨d, hd, hget⟩ := List.mem_take_iff_getElem.1 hmem
    have hk : text[i + 1 + d]? = some mark := by
      rw [← List.getElem?_drop, List.getElem?_eq_some_iff]
      exact ⟨_, hget⟩
    have htype := hbetween (i + 1 + d) (by omega) (by omega)
    obtain ⟨c, hc⟩ := hlevel (i + 1 + d) (by omega) (by omega)
    rw [typeAt?, hk] at htype
    rw [hk] at hc
    obtain rfl := Option.some.inj hc
    exact ⟨Option.some.inj htype, rfl⟩

end LeveledText

/-! ## Neighbours -/

namespace Shaping

open LeveledText (AreMarks)

theorem neighbour?_marks {level : Nat} {marks : LeveledText} (h : AreMarks level marks)
    (rest : LeveledText) : neighbour? level (marks ++ rest) = neighbour? level rest := by
  induction marks with
  | nil => rfl
  | cons mark later ih =>
    obtain ⟨htype, hlevel⟩ := h mark List.mem_cons_self
    rw [List.cons_append, neighbour?, if_pos hlevel, if_pos htype]
    exact ih fun other hother => h other (List.mem_cons_of_mem mark hother)

theorem neighbour?_of_ne {level : Nat} {c : Char} (rest : LeveledText)
    (h : JoiningType.of c ≠ .transparent) :
    neighbour? level ((c, level) :: rest) = some (.of c) := by
  rw [neighbour?, if_pos rfl, if_neg h]

/-- The neighbour is the first character that is no mark. -/
theorem neighbour?_eq_some_iff {level : Nat} {text : LeveledText} {type : JoiningType} :
    neighbour? level text = some type ↔
      ∃ marks c rest, text = marks ++ (c, level) :: rest ∧ AreMarks level marks ∧
        JoiningType.of c = type ∧ type ≠ .transparent := by
  constructor
  · intro h
    induction text with
    | nil => cases h
    | cons entry rest ih =>
      obtain ⟨c, l⟩ := entry
      unfold neighbour? at h
      split at h
      · next hlevel =>
        subst hlevel
        split at h
        · next hmark =>
          obtain ⟨marks, d, later, rfl, hmarks, hd⟩ := ih h
          refine ⟨(c, l) :: marks, d, later, rfl, ?_, hd⟩
          exact List.forall_mem_cons.2 ⟨⟨hmark, rfl⟩, hmarks⟩
        · next hletter =>
          obtain rfl := Option.some.inj h
          exact ⟨[], c, rest, rfl, List.forall_mem_nil _, rfl, hletter⟩
      · cases h
  · rintro ⟨marks, c, rest, rfl, hmarks, rfl, hletter⟩
    rw [neighbour?_marks hmarks, neighbour?_of_ne rest hletter]

end Shaping

namespace LeveledText

open Shaping (neighbour? neighbour?_eq_some_iff)

variable {text front rest : LeveledText} {c : Char} {level : Nat}

/-- Looking forward finds the successor. -/
theorem exists_isSuccessor_iff (htext : text = front ++ (c, level) :: rest)
    (type : JoiningType) :
    (∃ s, text.IsSuccessor s front.length ∧ text.typeAt? s = some type) ↔
      neighbour? level rest = some type := by
  rw [neighbour?_eq_some_iff]
  constructor
  · rintro ⟨s, ⟨hadjoins, hletter⟩, htype⟩
    obtain ⟨front', a, marks, b, rest', l, hsplit, hfront, rfl, hmarks⟩ := hadjoins.exists_split
    rw [typeAt?_of_split hsplit] at htype hletter
    obtain rfl := Option.some.inj htype
    rw [htext, List.append_assoc, List.cons_append] at hsplit
    obtain ⟨-, hbehind⟩ := List.append_inj hsplit hfront.symm
    obtain ⟨hown, rfl⟩ := List.cons.inj hbehind
    obtain ⟨-, rfl⟩ := Prod.mk.inj hown
    exact ⟨marks, b, rest', rfl, hmarks, rfl, fun hmark => hletter (congrArg some hmark)⟩
  · rintro ⟨marks, b, rest', rfl, hmarks, rfl, hletter⟩
    have hsplit : text = front ++ (c, level) :: marks ++ (b, level) :: rest' := by
      rw [htext, List.append_assoc, List.cons_append]
    have htype := typeAt?_of_split hsplit
    refine ⟨_, ⟨adjoins_of_split hsplit hmarks, ?_⟩, htype⟩
    rw [htype]
    exact fun hmark => hletter (Option.some.inj hmark)

/-- Looking back finds the predecessor. -/
theorem exists_isPredecessor_iff (htext : text = front ++ (c, level) :: rest)
    (type : JoiningType) :
    (∃ p, text.IsPredecessor p front.length ∧ text.typeAt? p = some type) ↔
      neighbour? level front.reverse = some type := by
  rw [neighbour?_eq_some_iff]
  constructor
  · rintro ⟨p, ⟨hadjoins, hletter⟩, htype⟩
    obtain ⟨front', a, marks, b, rest', l, hsplit, rfl, hfront, hmarks⟩ := hadjoins.exists_split
    have hsplit' := hsplit
    rw [List.append_assoc, List.cons_append] at hsplit'
    rw [typeAt?_of_split hsplit'] at htype hletter
    obtain rfl := Option.some.inj htype
    obtain ⟨rfl, hbehind⟩ := List.append_inj (htext.symm.trans hsplit) hfront.symm
    obtain ⟨hown, -⟩ := List.cons.inj hbehind
    obtain ⟨-, rfl⟩ := Prod.mk.inj hown
    refine ⟨marks.reverse, a, front'.reverse, by simp, hmarks.reverse, rfl, ?_⟩
    exact fun hmark => hletter (congrArg some hmark)
  · rintro ⟨marks, a, before, hbefore, hmarks, rfl, hletter⟩
    obtain rfl : front = before.reverse ++ (a, level) :: marks.reverse := by
      rw [← List.reverse_reverse front, hbefore]
      simp
    have hsplit : text =
        before.reverse ++ (a, level) :: (marks.reverse ++ (c, level) :: rest) := by
      rw [htext, List.append_assoc, List.cons_append]
    have htype := typeAt?_of_split hsplit
    refine ⟨_, ⟨adjoins_of_split htext hmarks.reverse, ?_⟩, htype⟩
    rw [htype]
    exact fun hmark => hletter (Option.some.inj hmark)

theorem joinedBefore_iff (htext : text = front ++ (c, level) :: rest) :
    text.JoinedBefore front.length ↔
      (neighbour? level front.reverse).any (·.joinsForward) = true := by
  have hfound := exists_isPredecessor_iff htext
  constructor
  · rintro ⟨p, hp, hdual | hcausing⟩
    · rw [(hfound .dual).1 ⟨p, hp, hdual⟩]
      rfl
    · rw [(hfound .causing).1 ⟨p, hp, hcausing⟩]
      rfl
  · intro h
    obtain ⟨type, htype, hjoins⟩ := (Option.any_eq_true _ _).1 h
    obtain ⟨p, hp, hpred⟩ := (hfound type).2 htype
    cases type with
    | dual => exact ⟨p, hp, .inl hpred⟩
    | causing => exact ⟨p, hp, .inr hpred⟩
    | _ => cases hjoins

theorem joinedAfter_iff (htext : text = front ++ (c, level) :: rest) :
    text.JoinedAfter front.length ↔
      (JoiningType.of c = .dual && (neighbour? level rest).any (·.joinsBackward)) = true := by
  have hfound := exists_isSuccessor_iff htext
  rw [JoinedAfter, typeAt?_of_split htext, Bool.and_eq_true, decide_eq_true_iff, Option.some_inj]
  refine and_congr_right fun hdual => ?_
  constructor
  · rintro ⟨s, hs, hjoins | hjoins | hjoins⟩
    · rw [(hfound .dual).1 ⟨s, hs, hjoins⟩]
      rfl
    · rw [(hfound .right).1 ⟨s, hs, hjoins⟩]
      rfl
    · rw [(hfound .causing).1 ⟨s, hs, hjoins⟩]
      rfl
  · intro h
    obtain ⟨type, htype, hjoins⟩ := (Option.any_eq_true _ _).1 h
    obtain ⟨s, hs, hsucc⟩ := (hfound type).2 htype
    cases type with
    | dual => exact ⟨s, hs, .inl hsucc⟩
    | right => exact ⟨s, hs, .inr (.inl hsucc)⟩
    | causing => exact ⟨s, hs, .inr (.inr hsucc)⟩
    | _ => cases hjoins

end LeveledText

end BidiViewport
