import BidiViewport.Bidi.Embedding

/-!
# Isolating run sequences

The characters that rule X9 keeps fall into runs of equal level.  A run that ends
in an isolate initiator is continued by the run that begins with the matching pop,
and runs linked this way make up one sequence (BD13).  The weak and neutral rules
see one sequence at a time, between two bounding directions (X10).
-/

namespace BidiViewport

/-- A character kept by rule X9.  `before` and `after` are the levels of the kept
characters next to it, or the paragraph level where there is none. -/
structure Kept where
  index : Nat
  char : Char
  initial : BidiClass
  resolved : BidiClass
  level : Nat
  before : Nat
  after : Nat
deriving Inhabited

namespace Kept

/-- The characters kept of a text from index `index` on; `before` is the level of
the last one kept so far. -/
def keepFrom (paragraph before index : Nat) : List (Char × Embedding.Placed) → List Kept
  | [] => []
  | (c, placed) :: rest =>
    if placed.initial.isRemoved then keepFrom paragraph before (index + 1) rest
    else
      let tail := keepFrom paragraph placed.level (index + 1) rest
      { index, char := c, initial := placed.initial, resolved := placed.resolved,
        level := placed.level, before,
        after := match tail with
          | [] => paragraph
          | next :: _ => next.level } :: tail

end Kept

/-- A maximal run of kept characters of one level. -/
abbrev LevelRun := List Kept

/-- The runs of equal level. -/
def levelRuns (kept : List Kept) : List LevelRun :=
  kept.splitBy fun a b => a.level == b.level

namespace LevelRun

/-- The run begins with a pop of an isolate. -/
def startsWithPop (run : LevelRun) : Bool :=
  match run.head? with
  | some k => k.initial = .PDI
  | none => false

/-- The run ends with an isolate initiator. -/
def endsWithInitiator (run : LevelRun) : Bool :=
  match run.getLast? with
  | some k => k.initial.isIsolateInitiator
  | none => false

end LevelRun

/-- Links the runs of a paragraph.  `waiting` holds the sequences that end in an
isolate initiator, the innermost first. -/
def linkRuns (waiting : List (List Kept)) : List LevelRun → List (List Kept)
  | [] => waiting
  | run :: rest =>
    let (sequence, waiting) := match waiting with
      | open_ :: outer => if run.startsWithPop then (open_ ++ run, outer) else (run, waiting)
      | [] => (run, waiting)
    if run.endsWithInitiator then linkRuns (sequence :: waiting) rest
    else sequence :: linkRuns waiting rest

/-- Linked runs with their embedding direction and the directions that bound them. -/
structure RunSequence where
  kept : List Kept
  direction : Direction
  /-- The start of the sequence counts as a strong character of this direction. -/
  sos : Direction
  /-- The end of the sequence counts as a strong character of this direction. -/
  eos : Direction

namespace RunSequence

/-- The higher level on each side of the border gives the bounding direction; past
an isolate that is never closed lies the paragraph. -/
def ofKept (paragraph : Nat) (kept : List Kept) : RunSequence :=
  match kept.head?, kept.getLast? with
  | some first, some last =>
    let after := if last.initial.isIsolateInitiator then paragraph else last.after
    { kept
      direction := .ofLevel first.level
      sos := .ofLevel (max first.level first.before)
      eos := .ofLevel (max last.level after) }
  | _, _ => ⟨kept, .ofLevel paragraph, .ofLevel paragraph, .ofLevel paragraph⟩

end RunSequence

/-- The isolating run sequences of the kept characters of a paragraph. -/
def runSequences (paragraph : Nat) (kept : List Kept) : List RunSequence :=
  (linkRuns [] (levelRuns kept)).map (.ofKept paragraph)

end BidiViewport
