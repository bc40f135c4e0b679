/-!
# Joining types of Arabic letters

How the letters of the Arabic block join to their neighbours.
-/

namespace BidiViewport

/-- How a character takes part in cursive joining. -/
inductive JoiningType
  /-- Joins to the letter before it only. -/
  | right
  /-- Joins on both sides. -/
  | dual
  /-- Makes its neighbours join without changing itself. -/
  | causing
  | nonJoining
  /-- Marks, which joining passes over. -/
  | transparent
deriving DecidableEq, Inhabited

namespace JoiningType

def of (c : Char) : JoiningType :=
  let n := c.toNat
  if (0x622 ≤ n && n ≤ 0x625) || n = 0x627 || n = 0x629 || (0x62F ≤ n && n ≤ 0x632)
    || n = 0x648 || (0x671 ≤ n && n ≤ 0x673) then .right
  else if n = 0x626 || n = 0x628 || (0x62A ≤ n && n ≤ 0x62E) || (0x633 ≤ n && n ≤ 0x63A)
    || (0x641 ≤ n && n ≤ 0x647) || n = 0x649 || n = 0x64A then .dual
  else if n = 0x640 || n = 0x200D then .causing
  else if (0x64B ≤ n && n ≤ 0x65F) || n = 0x670 then .transparent
  else .nonJoining

/-- Joins towards the character after it. -/
def joinsForward : JoiningType → Bool
  | dual | causing => true
  | _ => false

/-- Accepts a join from the character before it. -/
def joinsBackward : JoiningType → Bool
  | dual | right | causing => true
  | _ => false

end JoiningType

end BidiViewport
