/-!
# Bidirectional character classes

The classes of the Unicode bidirectional algorithm under their standard
abbreviations, and the groups of classes its rules speak about.  The class of a
character is `BidiClass.of`, in `Text.BidiClassTable`.
-/

namespace BidiViewport

/-- The Bidi_Class property. -/
inductive BidiClass
  | L | R | AL
  | EN | ES | ET | AN | CS | NSM | BN
  | B | S | WS | ON
  | LRE | LRO | RLE | RLO | PDF
  | LRI | RLI | FSI | PDI
deriving DecidableEq, Inhabited

namespace BidiClass

/-- Explicit formatting characters and boundary neutrals, which rule X9 takes
out of the text before the weak and neutral rules run. -/
def isRemoved : BidiClass → Bool
  | LRE | LRO | RLE | RLO | PDF | BN => true
  | _ => false

/-- Characters that open an isolate. -/
def isIsolateInitiator : BidiClass → Bool
  | LRI | RLI | FSI => true
  | _ => false

/-- Isolate formatting characters: initiators and the pop. -/
def isIsolateFormat : BidiClass → Bool
  | LRI | RLI | FSI | PDI => true
  | _ => false

end BidiClass

end BidiViewport
