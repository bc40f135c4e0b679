import BidiViewport.Direction
import BidiViewport.Text.BidiClass

/-!
# Explicit embedding levels

Rules X1 to X8 of the bidirectional algorithm: embeddings, overrides and isolates
open scopes, and every character takes the level of the innermost scope it stands
in.  First-strong isolates are settled beforehand, by what they contain (rule X5c).
-/

namespace BidiViewport

namespace Embedding

/-- The deepest embedding level. -/
def maxDepth : Nat := 125

/-- The first strong direction of the text, passing over the isolates in it, until
the isolate that holds the text ends.  `depth` counts the isolates open at this point. -/
def firstStrong (depth : Nat) : List BidiClass → Option Direction
  | [] => none
  | c :: rest =>
    if c.isIsolateInitiator then firstStrong (depth + 1) rest
    else match c with
      | .PDI => match depth with
        | 0 => none
        | depth + 1 => firstStrong depth rest
      | .L => if depth = 0 then some .ltr else firstStrong depth rest
      | .R | .AL => if depth = 0 then some .rtl else firstStrong depth rest
      | _ => firstStrong depth rest

/-- First-strong isolates become isolates of the direction they contain; without a
strong character that is left-to-right. -/
def settleIsolates : List BidiClass → List BidiClass
  | [] => []
  | .FSI :: rest =>
    (if firstStrong 0 rest = some .rtl then .RLI else .LRI) :: settleIsolates rest
  | c :: rest => c :: settleIsolates rest

/-- A part of the text with a level of its own. -/
structure Scope where
  level : Nat
  /-- The direction that characters in the scope are forced into. -/
  override : Option Direction
  isIsolate : Bool

/-- The scopes open at a point of the text, the innermost first, and the openings
that were ignored because the levels were used up. -/
structure Nesting where
  paragraph : Nat
  scopes : List Scope
  overflowIsolates : Nat
  overflowEmbeddings : Nat

namespace Nesting

/-- The start of a paragraph of the given level. -/
def start (paragraph : Nat) : Nesting := ⟨paragraph, [], 0, 0⟩

/-- The innermost scope; outside all others the paragraph is one. -/
def current (n : Nesting) : Scope :=
  n.scopes.headD ⟨n.paragraph, none, false⟩

/-- The level of the innermost scope. -/
def level (n : Nesting) : Nat :=
  n.current.level

/-- The least level above the current one that runs in the given direction. -/
def nextLevel (n : Nesting) : Direction → Nat
  | .ltr => (n.level / 2 + 1) * 2
  | .rtl => (n.level + 1) / 2 * 2 + 1

/-- Opens a scope, unless its level would be too deep or an opening before it was
already ignored. -/
def enter (n : Nesting) (direction : Direction) (override : Option Direction)
    (isIsolate : Bool) : Nesting :=
  let level := n.nextLevel direction
  if level ≤ maxDepth ∧ n.overflowIsolates = 0 ∧ n.overflowEmbeddings = 0 then
    { n with scopes := ⟨level, override, isIsolate⟩ :: n.scopes }
  else if isIsolate then { n with overflowIsolates := n.overflowIsolates + 1 }
  else if n.overflowIsolates = 0 then
    { n with overflowEmbeddings := n.overflowEmbeddings + 1 }
  else n

/-- Closes the innermost isolate together with the embeddings open in it. -/
def leaveIsolate (n : Nesting) : Nesting :=
  if 0 < n.overflowIsolates then { n with overflowIsolates := n.overflowIsolates - 1 }
  else if n.scopes.any (·.isIsolate) then
    { n with
      overflowEmbeddings := 0
      scopes := (n.scopes.dropWhile (fun scope => !scope.isIsolate)).drop 1 }
  else n

/-- Closes the innermost embedding; an isolate is not closed this way. -/
def leaveEmbedding (n : Nesting) : Nesting :=
  if 0 < n.overflowIsolates then n
  else if 0 < n.overflowEmbeddings then
    { n with overflowEmbeddings := n.overflowEmbeddings - 1 }
  else match n.scopes with
    | scope :: outer => if scope.isIsolate then n else { n with scopes := outer }
    | [] => n

end Nesting

/-- A character after the explicit rules: its own class, the class the later rules
start from, and its level. -/
structure Placed where
  initial : BidiClass
  resolved : BidiClass
  level : Nat
deriving Inhabited

/-- The class of a character in the innermost scope of `n`. -/
def forced (n : Nesting) (c : BidiClass) : BidiClass :=
  match n.current.override with
  | none => c
  | some .ltr => .L
  | some .rtl => .R

/-- What one character is placed as, and the nesting after it. -/
def step (n : Nesting) (c : BidiClass) : Placed × Nesting :=
  match c with
  | .LRE => (⟨c, .BN, n.level⟩, n.enter .ltr none false)
  | .RLE => (⟨c, .BN, n.level⟩, n.enter .rtl none false)
  | .LRO => (⟨c, .BN, n.level⟩, n.enter .ltr (some .ltr) false)
  | .RLO => (⟨c, .BN, n.level⟩, n.enter .rtl (some .rtl) false)
  | .LRI | .FSI => (⟨c, forced n c, n.level⟩, n.enter .ltr none true)
  | .RLI => (⟨c, forced n c, n.level⟩, n.enter .rtl none true)
  | .PDI =>
    let n := n.leaveIsolate
    (⟨c, forced n c, n.level⟩, n)
  | .PDF => (⟨c, .BN, n.level⟩, n.leaveEmbedding)
  | .B => (⟨c, c, n.paragraph⟩, n)
  | .BN => (⟨c, c, n.level⟩, n)
  | _ => (⟨c, forced n c, n.level⟩, n)

/-- All characters of a text, placed one after the other. -/
def placeFrom (n : Nesting) : List BidiClass → List Placed
  | [] => []
  | c :: rest =>
    let (placed, n) := step n c
    placed :: placeFrom n rest

@[simp] theorem length_placeFrom (n : Nesting) (classes : List BidiClass) :
    (placeFrom n classes).length = classes.length := by
  induction classes generalizing n with
  | nil => rfl
  | cons c rest ih => simp [placeFrom, ih]

@[simp] theorem length_settleIsolates (classes : List BidiClass) :
    (settleIsolates classes).length = classes.length := by
  fun_induction settleIsolates classes <;> simp_all

end Embedding

/-- The first strong direction of a paragraph outside its isolates (rule P2). -/
def firstStrongDirection (classes : List BidiClass) : Option Direction :=
  go 0 classes
where
  /-- `depth` isolates are open; a paragraph separator ends the search. -/
  go (depth : Nat) : List BidiClass → Option Direction
    | [] => none
    | c :: rest =>
      if c.isIsolateInitiator then go (depth + 1) rest
      else match c with
        | .PDI => go (depth - 1) rest
        | .L => if depth = 0 then some .ltr else go depth rest
        | .R | .AL => if depth = 0 then some .rtl else go depth rest
        | .B => none
        | _ => go depth rest

end BidiViewport
