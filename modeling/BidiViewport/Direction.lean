/-!
# Text direction

The direction of a run of text, the direction switches that a row carries, and
what they ask of the paragraph the row begins.
-/

namespace BidiViewport

inductive Direction
  | ltr
  | rtl
deriving DecidableEq, Inhabited

namespace Direction

/-- The direction of an embedding level: odd levels run from right to left. -/
def ofLevel (level : Nat) : Direction :=
  if level % 2 = 1 then .rtl else .ltr

/-- The embedding level of a paragraph in this direction. -/
def level : Direction → Nat
  | ltr => 0
  | rtl => 1

/-- `true` means right-to-left. -/
def ofBool (rtl : Bool) : Direction :=
  if rtl then .rtl else .ltr

@[simp] theorem ofLevel_level (d : Direction) : ofLevel d.level = d := by
  cases d <;> rfl

end Direction

/-- The direction switches of a row, as escape sequences leave them behind. -/
structure DirectionFlags where
  /-- Run the bidirectional algorithm. -/
  implicit : Bool := false
  /-- The declared, or default, direction is right-to-left. -/
  rtl : Bool := false
  /-- Detect the direction from the content. -/
  auto : Bool := false
  boxMirror : Bool := false
deriving DecidableEq, Inhabited

/-- How the direction of a paragraph is handled. -/
inductive DirectionMode
  /-- A fixed direction and no reordering. -/
  | explicit (direction : Direction)
  /-- The bidirectional algorithm in a fixed paragraph direction. -/
  | implicit (direction : Direction)
  /-- The bidirectional algorithm in the direction of the first strong character;
  `fallback` is for text without one. -/
  | auto (fallback : Direction)
deriving DecidableEq

/-- The paragraph direction asked of the bidirectional algorithm. -/
inductive ParagraphBase
  | fixed (direction : Direction)
  | auto (fallback : Direction)
deriving DecidableEq, Inhabited

namespace DirectionFlags

/-- The switches from the low bits of a number; other bits mean nothing. -/
def ofBits (bits : Nat) : DirectionFlags where
  implicit := bits.testBit 0
  rtl := bits.testBit 1
  auto := bits.testBit 2
  boxMirror := bits.testBit 3

def toBits (flags : DirectionFlags) : Nat :=
  flags.implicit.toNat + 2 * flags.rtl.toNat + 4 * flags.auto.toNat + 8 * flags.boxMirror.toNat

def declared (flags : DirectionFlags) : Direction :=
  .ofBool flags.rtl

/-- Detection has no effect on explicit paragraphs. -/
def mode (flags : DirectionFlags) : DirectionMode :=
  if flags.implicit then
    if flags.auto then .auto flags.declared else .implicit flags.declared
  else .explicit flags.declared

@[simp] theorem ofBits_toBits (flags : DirectionFlags) : ofBits flags.toBits = flags := by
  obtain ⟨implicit, rtl, auto, boxMirror⟩ := flags
  cases implicit <;> cases rtl <;> cases auto <;> cases boxMirror <;> rfl

end DirectionFlags

/-- What an implicit mode asks of the bidirectional algorithm; an explicit one
never reaches it. -/
def DirectionMode.base? : DirectionMode → Option ParagraphBase
  | .explicit _ => none
  | .implicit direction => some (.fixed direction)
  | .auto fallback => some (.auto fallback)

end BidiViewport
