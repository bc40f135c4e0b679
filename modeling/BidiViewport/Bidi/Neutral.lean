import BidiViewport.Bidi.Weak
import BidiViewport.Text.Bracket

/-!
# Neutral types

Rules N0 to N2 on one isolating run sequence whose weak types are resolved.  Paired
brackets take a direction from what they enclose; the other neutrals take the
direction of the strong text around them when it agrees, and the embedding direction
otherwise.
-/

namespace BidiViewport

namespace Neutral

/-- The pairs open at a point of the text beyond which the search for pairs ends. -/
def maxOpenBrackets : Nat := 63

/-- A character of a sequence with its class after the weak rules. -/
structure Item where
  char : Char
  initial : BidiClass
  resolved : BidiClass

/-- The bracket that an item is, unless an override has made it strong. -/
def Item.bracket? (item : Item) : Option Bracket :=
  if item.resolved = .ON then Bracket.of? item.char else none

/-- The positions of the paired brackets in the items from position `position` on,
in the order of the closing brackets (BD16).  `stack` holds the pair and the position
of each open bracket, the innermost first. -/
def pairsFrom (stack : List (Nat × Nat)) (position : Nat) : List Item → List (Nat × Nat)
  | [] => []
  | item :: rest =>
    match item.bracket? with
    | none => pairsFrom stack (position + 1) rest
    | some (.opening pair) =>
      if stack.length < maxOpenBrackets then
        pairsFrom ((pair, position) :: stack) (position + 1) rest
      else []
    | some (.closing pair) =>
      match stack.dropWhile (fun entry => entry.1 ≠ pair) with
      | [] => pairsFrom stack (position + 1) rest
      | (_, start) :: outer => (start, position) :: pairsFrom outer (position + 1) rest

/-- Pairs in the order of their opening brackets. -/
def insertPair (pair : Nat × Nat) : List (Nat × Nat) → List (Nat × Nat)
  | [] => [pair]
  | other :: rest =>
    if pair.1 < other.1 then pair :: other :: rest else other :: insertPair pair rest

/-- All bracket pairs, in the order of their opening brackets. -/
def bracketPairs (items : List Item) : List (Nat × Nat) :=
  (pairsFrom [] 0 items).foldr insertPair []

/-- The strong direction that a class counts as when neutrals are resolved: numbers
count as right-to-left. -/
def direction? : BidiClass → Option Direction
  | .L => some .ltr
  | .R | .EN | .AN => some .rtl
  | _ => none

/-- The direction that the brackets at `start` and `stop` take: the embedding
direction `e` when it occurs between them, else the direction of the strong text
before them when the other direction occurs between them, else none. -/
def pairDirection? (e sos : Direction) (classes : Array BidiClass) (start stop : Nat) :
    Option Direction :=
  let inside := (classes.extract (start + 1) stop).toList.filterMap direction?
  if inside.contains e then some e
  else if inside.isEmpty then none
  else some (((classes.extract 0 start).toList.reverse.findSome? direction?).getD sos)

/-- The position of an item and of the marks that follow it. -/
def withMarks (initials : Array BidiClass) (position : Nat) : List Nat :=
  let marks := (initials.extract (position + 1) initials.size).toList.takeWhile (· = .NSM)
  List.range' position (marks.length + 1)

/-- N0 for one pair. -/
def resolvePair (e sos : Direction) (initials classes : Array BidiClass)
    (pair : Nat × Nat) : Array BidiClass :=
  match pairDirection? e sos classes pair.1 pair.2 with
  | none => classes
  | some d =>
    (withMarks initials pair.1 ++ withMarks initials pair.2).foldl
      (fun classes position => classes.setIfInBounds position (Weak.strong d)) classes

/-- N0 for all pairs. -/
def brackets (e sos : Direction) (items : List Item) : List BidiClass :=
  let initials := (items.map (·.initial)).toArray
  ((bracketPairs items).foldl (resolvePair e sos initials)
    (items.map (·.resolved)).toArray).toList

/-- Each class with the direction of the first strong text after it. -/
def withNext (eos : Direction) : List BidiClass → List (BidiClass × Direction)
  | [] => []
  | c :: rest =>
    let rest := withNext eos rest
    (c, match rest with
      | [] => eos
      | (next, beyond) :: _ => (direction? next).getD beyond) :: rest

/-- N1 and N2: neutrals between two strong texts of one direction take it, and the
others take the embedding direction `e`. -/
def others (e previous : Direction) : List (BidiClass × Direction) → List BidiClass
  | [] => []
  | (c, next) :: rest =>
    match direction? c with
    | some d => c :: others e d rest
    | none => Weak.strong (if previous = next then previous else e) :: others e previous rest

/-- All neutral rules, in their order. -/
def resolve (e sos eos : Direction) (items : List Item) : List BidiClass :=
  others e sos (withNext eos (brackets e sos items))

end Neutral

end BidiViewport
