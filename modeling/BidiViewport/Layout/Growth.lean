/-!
# Growth of storage

Storage for rows and columns grows by doubling and is never given back, so a window
that is resized back and forth is not reallocated.
-/

namespace BidiViewport

/-- The most entries that storage can be asked for: more have no addresses.  Whether fewer can
be had is up to the memory of the machine, which is not modelled. -/
def maxLength : Nat := 9223372036854775807

/-- The first of `capacity`, twice `capacity`, four times `capacity` and so on that is
at least `need`.  No capacity at all does not grow. -/
def grownCapacity (need capacity : Nat) : Nat :=
  if capacity < need ∧ 0 < capacity then grownCapacity need (2 * capacity) else capacity
termination_by need - capacity

theorem le_grownCapacity_self (need capacity : Nat) : capacity ≤ grownCapacity need capacity := by
  fun_induction grownCapacity need capacity <;> omega

theorem le_grownCapacity {need capacity : Nat} (h : 0 < capacity) :
    need ≤ grownCapacity need capacity := by
  fun_induction grownCapacity need capacity <;> omega

/-- Storage that is large enough stays as it is. -/
theorem grownCapacity_of_le {need capacity : Nat} (h : need ≤ capacity) :
    grownCapacity need capacity = capacity := by
  unfold grownCapacity
  rw [if_neg (by omega)]

end BidiViewport
