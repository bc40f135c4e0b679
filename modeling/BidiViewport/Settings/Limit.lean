/-!
# Limits and reserves

How many rows a paragraph may have to be analysed, and how much storage a viewport
begins with.  The characters of one paragraph are bounded by a budget, so the limit
that can be had depends on the width.
-/

namespace BidiViewport

/-- The largest size, a number of 64 bits. -/
def maxSize : Nat := 18446744073709551615

/-- The most characters handed to a classifier for one paragraph. -/
def characterBudget : Nat := 1048576

/-- The limit on the rows of a paragraph unless another is asked for. -/
def defaultLimit : Nat := 500

/-- The row maps that a viewport begins with unless more are asked for. -/
def defaultReserveRows : Nat := 32

/-- The columns that a row map has room for unless more are asked for. -/
def defaultReserveColumns : Nat := 128

/-- The rows of a number of columns that are within the budget, but at least one. -/
def rowsWithinBudget (columns : Nat) : Nat :=
  max 1 (characterBudget / max 1 columns)

/-- The limit that can be had of `limit` rows when they have a number of columns. -/
def clampLimit (limit columns : Nat) : Nat :=
  min (max 1 limit) (rowsWithinBudget columns)

theorem rowsWithinBudget_pos (columns : Nat) : 0 < rowsWithinBudget columns := by
  unfold rowsWithinBudget
  omega

theorem clampLimit_pos (limit columns : Nat) : 0 < clampLimit limit columns := by
  have := rowsWithinBudget_pos columns
  unfold clampLimit
  omega

/-- A limit can be had as it is exactly if it has a row and is within the budget. -/
theorem clampLimit_eq_self_iff {limit columns : Nat} :
    clampLimit limit columns = limit ↔ 1 ≤ limit ∧ limit ≤ rowsWithinBudget columns := by
  have := rowsWithinBudget_pos columns
  unfold clampLimit
  omega

end BidiViewport
