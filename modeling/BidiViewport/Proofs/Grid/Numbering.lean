import BidiViewport.Proofs.Grid.Log

/-!
# Numbers of rows

A scrollback is used by operations (`Scrollback.Operation`) that push rows, one or many at a time,
or change a row of a number.  Whatever they are, a row keeps the number of rows that were pushed
before it, and while it is kept it is the row that was pushed, with the changes made to it under
that number and no others (`Scrollback.rowAt_performAll`).

The changes are read off the operations alone: `Scrollback.changesTo` counts the rows pushed so far
to tell whether a row was still kept when it was asked for.
-/

namespace BidiViewport

namespace Scrollback

/-- What can be done to a scrollback. -/
inductive Operation
  | push (row : Row)
  | extend (rows : List Row)
  | appendText (text : List Char) (width : Nat) (flags : DirectionFlags)
  | modify (index : Nat) (change : Row → Row)

/-- The rows that an operation pushes. -/
def Operation.rows : Operation → List Row
  | .push row => [row]
  | .extend rows => rows
  | .appendText text width flags => wrapText text width flags
  | .modify _ _ => []

def perform (s : Scrollback) : Operation → Scrollback
  | .push row => s.push row
  | .extend rows => s.extend rows
  | .appendText text width flags => s.appendText text width flags
  | .modify index change => s.modify index change

def performAll (s : Scrollback) (operations : List Operation) : Scrollback :=
  operations.foldl perform s

/-- The row `index` is among the newest `maxRows` of `count` rows. -/
def Keeps (maxRows count index : Nat) : Prop :=
  count - min count maxRows ≤ index ∧ index < count

instance (maxRows count index : Nat) : Decidable (Keeps maxRows count index) :=
  inferInstanceAs (Decidable (_ ∧ _))

/-- The change that an operation makes to the row `index` when `count` rows have been pushed. -/
def changeTo? (maxRows index count : Nat) : Operation → Option (Row → Row)
  | .modify target change =>
    if target = index ∧ Keeps maxRows count index then some change else none
  | _ => none

/-- The changes made to the row `index` while it was kept, in order, when `count` rows had been
pushed before. -/
def changesTo (maxRows index : Nat) : (count : Nat) → List Operation → List (Row → Row)
  | _, [] => []
  | count, operation :: rest =>
    (changeTo? maxRows index count operation).toList ++
      changesTo maxRows index (count + operation.rows.length) rest

/-- A row after some changes. -/
def changed (changes : List (Row → Row)) (row : Row) : Row :=
  changes.foldl (fun row change => change row) row

theorem changed_append (earlier later : List (Row → Row)) (row : Row) :
    changed (earlier ++ later) row = changed later (changed earlier row) :=
  List.foldl_append

/-! ## The log of a scrollback with changes -/

/-- The log after an operation. -/
def Operation.record (maxRows : Nat) (log : List Row) : Operation → List Row
  | .modify index change =>
    if Keeps maxRows log.length index then log.modify index change else log
  | operation => log ++ operation.rows

theorem length_record (maxRows : Nat) (log : List Row) (operation : Operation) :
    (operation.record maxRows log).length = log.length + operation.rows.length := by
  cases operation with
  | modify index change =>
    unfold Operation.record
    dsimp only
    split
    · rw [List.length_modify]
      rfl
    · rfl
  | _ => exact List.length_append

theorem Logs.perform {s : Scrollback} {log : List Row} (h : s.Logs log) (operation : Operation) :
    (s.perform operation).Logs (operation.record s.maxRows log) := by
  cases operation with
  | push row => exact h.push row
  | extend rows => exact h.extend rows
  | appendText text width flags => exact h.extend _
  | modify index change =>
    unfold Operation.record
    dsimp only
    split
    · next hkeeps =>
      refine h.modify change ?_
      rw [h.firstRow]
      exact hkeeps.1
    · next hgone =>
      have hsame : s.modify index change = s := by
        refine if_neg fun hretains => hgone ?_
        have hkept := (h.retains_iff index).1 hretains
        rwa [h.firstRow] at hkept
      show (s.modify index change).Logs log
      rw [hsame]
      exact h

theorem maxRows_perform (s : Scrollback) (operation : Operation) :
    (s.perform operation).maxRows = s.maxRows := by
  cases operation with
  | push row => rfl
  | extend rows => exact maxRows_extend s rows
  | appendText text width flags => exact maxRows_extend s _
  | modify index change =>
    unfold perform modify
    dsimp only
    split <;> rfl

/-- A change of the log is a change of its row, and rows that are pushed later leave it alone. -/
theorem getElem?_record (maxRows : Nat) (log later : List Row) (operation : Operation) (i : Nat) :
    (operation.record maxRows log ++ later)[i]? =
      ((log ++ (operation.rows ++ later))[i]?).map
        (changed (changeTo? maxRows i log.length operation).toList) := by
  have hnone : changed [] = id := rfl
  cases operation with
  | modify index change =>
    unfold Operation.record changeTo?
    dsimp only
    by_cases hsame : index = i
    · subst hsame
      by_cases hkeeps : Keeps maxRows log.length index
      · have hlt := hkeeps.2
        rw [if_pos hkeeps, if_pos ⟨rfl, hkeeps⟩, List.getElem?_append_left (by simpa using hlt),
          List.getElem?_append_left hlt, List.getElem?_modify]
        simp only [if_true]
        rfl
      · rw [if_neg hkeeps, if_neg fun h => hkeeps h.2, Option.toList_none, hnone, Option.map_id]
        rfl
    · have hother : ¬(index = i ∧ Keeps maxRows log.length i) := fun h => hsame h.1
      rw [if_neg hother, Option.toList_none, hnone, Option.map_id]
      split
      · by_cases hlt : i < log.length
        · rw [List.getElem?_append_left (by simpa using hlt), List.getElem?_append_left hlt,
            List.getElem?_modify]
          simp [hsame]
        · have hle := Nat.le_of_not_lt hlt
          rw [List.getElem?_append_right (by simpa using hle), List.getElem?_append_right hle,
            List.length_modify]
          rfl
      · rfl
  | _ =>
    unfold Operation.record changeTo?
    dsimp only
    rw [Option.toList_none, hnone, Option.map_id, List.append_assoc]
    rfl

/-! ## All operations -/

theorem Logs.performAll {s : Scrollback} {log : List Row} (h : s.Logs log)
    (operations : List Operation) :
    ∃ log', (s.performAll operations).Logs log' ∧
      log'.length = log.length + (operations.flatMap Operation.rows).length ∧
      ∀ i, log'[i]? = ((log ++ operations.flatMap Operation.rows)[i]?).map
        (changed (changesTo s.maxRows i log.length operations)) := by
  induction operations generalizing s log with
  | nil =>
    refine ⟨log, h, rfl, fun i => ?_⟩
    have hnone : changed (changesTo s.maxRows i log.length []) = id := rfl
    rw [hnone, Option.map_id, List.flatMap_nil, List.append_nil]
    rfl
  | cons operation rest ih =>
    obtain ⟨log', hlogs, hlength, hrows⟩ := ih (h.perform operation)
    refine ⟨log', hlogs, ?_, fun i => ?_⟩
    · rw [hlength, length_record, List.flatMap_cons, List.length_append, Nat.add_assoc]
    · rw [hrows, getElem?_record, length_record, maxRows_perform, Option.map_map,
        List.flatMap_cons]
      congr 1
      funext row
      exact (changed_append _ _ row).symm

theorem maxRows_performAll (s : Scrollback) (operations : List Operation) :
    (s.performAll operations).maxRows = s.maxRows := by
  induction operations generalizing s with
  | nil => rfl
  | cons operation rest ih => exact (ih (s.perform operation)).trans (maxRows_perform s operation)

/-- A scrollback is a log of which it keeps the newest rows, `max 1 maxRows` at most.  A row has the
number of the rows that were pushed before it, and as long as it is kept it is that row with the
changes made to it so far.  Rows that are added get the numbers that follow, even if some of them
are not kept. -/
theorem rowAt_performAll (maxRows : Nat) (operations : List Operation) :
    let s := (empty maxRows).performAll operations
    let rows := operations.flatMap Operation.rows
    let kept := min rows.length (max 1 maxRows)
    s.nextRow = rows.length ∧ s.firstRow = rows.length - kept ∧ s.size = kept ∧
      (∀ i, s.source.rowAt i =
        if s.firstRow ≤ i then
          (rows[i]?).map (changed (changesTo (max 1 maxRows) i 0 operations))
        else none) ∧
      (∀ i, (s.source.rowAt i).isSome = true ↔ s.firstRow ≤ i ∧ i < s.nextRow) ∧
      (∀ row, s.pushNumber row = rows.length) ∧
      (∀ added, s.extendRange added = (rows.length, rows.length + added.length)) ∧
      (∀ text width flags, s.appendTextRange text width flags =
        (rows.length, rows.length + (wrapText text width flags).length)) ∧
      ∀ i change, (s.modify? i change).isSome = (s.source.rowAt i).isSome := by
  intro s rows kept
  obtain ⟨log, hlogs, hlength, hrows⟩ := (logs_empty maxRows).performAll operations
  have hmax : s.maxRows = max 1 maxRows := maxRows_performAll _ _
  have hnext : s.nextRow = rows.length := by
    rw [hlogs.nextRow_eq, hlength, List.length_nil, Nat.zero_add]
  have hlog : log.length = rows.length := hlogs.nextRow_eq.symm.trans hnext
  have hrange (added : List Row) :
      s.extendRange added = (rows.length, rows.length + added.length) := by
    unfold extendRange
    rw [hnext, (hlogs.extend added).nextRow_eq, List.length_append, hlog]
  have hrowAt (i : Nat) : s.source.rowAt i = if s.firstRow ≤ i then
      (rows[i]?).map (changed (changesTo (max 1 maxRows) i 0 operations)) else none := by
    refine (hlogs.row?_eq i).trans ?_
    rw [hrows i]
    rfl
  have hsome (i : Nat) :
      (s.source.rowAt i).isSome = true ↔ s.firstRow ≤ i ∧ i < s.nextRow := by
    rw [hrowAt, hnext]
    by_cases hkept : s.firstRow ≤ i
    · simp [hkept]
    · simp [hkept]
  refine ⟨hnext, ?_, ?_, hrowAt, hsome, fun row => ?_, hrange,
    fun text width flags => hrange _, fun i change => ?_⟩
  · rw [hlogs.firstRow, hmax, hlog]
  · exact (hlogs.size.trans (by rw [hmax, hlog]))
  · unfold pushNumber
    rw [(hlogs.push row).nextRow_eq, List.length_append, hlog]
    rfl
  · unfold modify?
    have hretains : s.retains i = true ↔ s.firstRow ≤ i ∧ i < s.nextRow := by
      rw [hlogs.nextRow_eq]
      exact hlogs.retains_iff i
    rw [Bool.eq_iff_iff, hsome, ← hretains]
    split
    · next h => simp [h]
    · next h => simp [h]

end Scrollback

end BidiViewport
