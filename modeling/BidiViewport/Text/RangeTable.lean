/-!
# Character properties as range tables

A property of characters is stored as an array of disjoint ranges of code
points in ascending order, each with its value.  Looking a character up bisects
the array.  `value?_mem` says that an answer always comes from a range of the
table that holds the character.
-/

namespace BidiViewport

/-- The characters from `first` to `last` share `value`. -/
structure CodeRange (α : Type) where
  first : Nat
  last : Nat
  value : α

/-- Disjoint ranges in ascending order. -/
structure RangeTable (α : Type) where
  ranges : Array (CodeRange α)

namespace RangeTable

variable {α : Type}

/-- Bisection between the indices `low` (included) and `high` (excluded), in at
most `steps` halvings. -/
def search (t : RangeTable α) (code : Nat) : (steps low high : Nat) → Option α
  | 0, _, _ => none
  | steps + 1, low, high =>
    if low < high then
      let middle := (low + high) / 2
      match t.ranges[middle]? with
      | none => none
      | some range =>
        if code < range.first then t.search code steps low middle
        else if range.last < code then t.search code steps (middle + 1) high
        else some range.value
    else none

/-- The value of the range that holds `c`. -/
def value? (t : RangeTable α) (c : Char) : Option α :=
  t.search c.toNat t.ranges.size 0 t.ranges.size

/-- Some range of the table holds `c`. -/
def contains (t : RangeTable α) (c : Char) : Bool :=
  (t.value? c).isSome

/-- A property given by pairs of first and last code points. -/
def ofPairs (pairs : Array (Nat × Nat)) : RangeTable Unit :=
  ⟨pairs.map fun p => ⟨p.1, p.2, ()⟩⟩

theorem search_mem {t : RangeTable α} {code steps low high : Nat} {v : α}
    (h : t.search code steps low high = some v) :
    ∃ range ∈ t.ranges, range.first ≤ code ∧ code ≤ range.last ∧ range.value = v := by
  induction steps generalizing low high with
  | zero => simp [search] at h
  | succ steps ih =>
    unfold search at h
    split at h
    · dsimp only at h
      split at h
      · simp at h
      · next range hr =>
        split at h
        · exact ih h
        · split at h
          · exact ih h
          · exact ⟨range, Array.mem_of_getElem? hr, by omega, by omega, by simpa using h⟩
    · simp at h

/-- A value found for `c` belongs to a range of the table that holds `c`. -/
theorem value?_mem {t : RangeTable α} {c : Char} {v : α} (h : t.value? c = some v) :
    ∃ range ∈ t.ranges, range.first ≤ c.toNat ∧ c.toNat ≤ range.last ∧ range.value = v :=
  search_mem h

end RangeTable

end BidiViewport
