import BidiViewport.Text.WidthTable

/-!
# Display width of text

The width of a text is the sum of the columns of its characters, read from the
end because some characters are drawn as one with what follows them: lam with
alef, a letter under a coeng sign, two Tifinagh consonants around a joiner.  A
variation selector changes the style, and so the width, of the character before it.
Emoji joined into one picture need no rule here: the last of them alone is two
columns wide, and no caller asks for more than that.
-/

namespace BidiViewport

namespace Width

/-- The drawing style a variation selector asks for. -/
inductive Style
  | text
  | emoji
deriving DecidableEq

/-- What stands to the right of a character and can be drawn as one with it.
`joined` says that a zero-width joiner has been seen on the way. -/
inductive Following
  | plain
  | lineFeed
  | alef
  | lamed (joined : Bool)
  | coengLetter
  | bugineseYa (joined : Bool)
  | bugineseVowel
  | tifinagh (joined : Bool)
  | tifinaghJoiner
  | lisuTone
  | oldTurkicI (joined : Bool)
  | kiratVowelE
  | kiratVowelAi
deriving DecidableEq

namespace Following

/-- Ligatures that default-ignorable marks and joiners leave intact. -/
def isTransparent : Following → Bool
  | lamed _ | coengLetter | bugineseYa _ | bugineseVowel | tifinagh _ | tifinaghJoiner
  | lisuTone | oldTurkicI _ => true
  | _ => false

/-- A variation selector keeps the ligature it stands in. -/
def selected (f : Following) : Following :=
  if f.isTransparent || f = alef then f else plain

/-- A joiner has been passed. -/
def join : Following → Following
  | lamed _ => lamed true
  | bugineseYa _ => bugineseYa true
  | tifinagh _ => tifinagh true
  | oldTurkicI _ => oldTurkicI true
  | f => f

/-- What a character is to the one before it. -/
def ofChar (c : Char) : Following :=
  let n := c.toNat
  if n = 0x622 || n = 0x623 || n = 0x625 || n = 0x627 || (0x671 ≤ n && n ≤ 0x673) || n = 0x675
    || n = 0x773 || n = 0x774 || (0x870 ≤ n && n ≤ 0x882) then alef
  else if n = 0x5DC then lamed false
  else if (0x1780 ≤ n && n ≤ 0x1782) || (0x1784 ≤ n && n ≤ 0x1787) || (0x1789 ≤ n && n ≤ 0x178C)
    || (0x178E ≤ n && n ≤ 0x1793) || (0x1795 ≤ n && n ≤ 0x1798) || (0x179B ≤ n && n ≤ 0x179D)
    || n = 0x17A0 || n = 0x17A2 || n = 0x17A7 || n = 0x17AB || n = 0x17AC || n = 0x17AF
  then coengLetter
  else if n = 0x1A10 then bugineseYa false
  else if (0x2D31 ≤ n && n ≤ 0x2D65) || n = 0x2D6F then tifinagh false
  else if n = 0xA4FC || n = 0xA4FD then lisuTone
  else if n = 0x10C03 then oldTurkicI false
  else if n = 0x16D67 then kiratVowelE
  else if n = 0x16D68 then kiratVowelAi
  else plain

end Following

/-- Default-ignorable combining marks. -/
def isIgnorableMark (c : Char) : Bool :=
  let n := c.toNat
  n = 0x34F || n = 0x17B4 || n = 0x17B5 || (0x180B ≤ n && n ≤ 0x180D) || n = 0x180F
    || (0xFE00 ≤ n && n ≤ 0xFE0F) || (0xE0100 ≤ n && n ≤ 0xE01EF)

/-- What the text to the right shows of itself. -/
structure Context where
  following : Following
  style : Option Style

namespace Context

/-- Nothing to the right matters. -/
def plain : Context := ⟨.plain, none⟩

end Context

/-- The columns that `c` adds in front of `f` when both are drawn as one, and what
they are to the character before. -/
def ligature? (f : Following) (c : Char) : Option (Int × Following) :=
  let n := c.toNat
  match f with
  | .alef =>
    if n = 0x644 || (0x6B5 ≤ n && n ≤ 0x6B8) || n = 0x76A || n = 0x8A6 || n = 0x8C7 then
      some (0, .plain)
    else if isTransparent c then some (0, .alef)
    else none
  | .lamed true => if n = 0x5D0 then some (0, .plain) else none
  | .coengLetter => if n = 0x17D2 then some (-1, .plain) else none
  | .bugineseYa true => if n = 0x1A17 then some (0, .bugineseVowel) else none
  | .bugineseVowel => if n = 0x1A15 then some (0, .plain) else none
  | .tifinagh joined =>
    if n = 0x2D7F then some (1, .tifinaghJoiner)
    else if joined && ((0x2D31 ≤ n && n ≤ 0x2D65) || n = 0x2D6F) then some (0, .plain)
    else none
  | .tifinaghJoiner =>
    if (0x2D31 ≤ n && n ≤ 0x2D65) || n = 0x2D6F then some (-1, .plain) else none
  | .lisuTone => if 0xA4F8 ≤ n && n ≤ 0xA4FB then some (0, .plain) else none
  | .oldTurkicI true => if n = 0x10C32 then some (0, .plain) else none
  | .kiratVowelE =>
    if n = 0x16D63 || n = 0x16D69 then some (0, .plain)
    else if n = 0x16D67 then some (0, .kiratVowelAi)
    else if n = 0x16D68 then some (1, .plain)
    else none
  | .kiratVowelAi => if n = 0x16D63 then some (0, .plain) else none
  | _ => none

/-- The columns that `c` adds in front of a text with the given context, and the
context of the longer text. -/
def step (c : Char) (context : Context) : Int × Context :=
  if context.style = some .emoji && emojiStyleBase.contains c then (2, .plain)
  else if c.toNat ≤ 0xA0 then
    if c = '\n' then (1, ⟨.lineFeed, none⟩)
    else if c = '\r' && context.following = .lineFeed && context.style.isNone then (0, .plain)
    else (1, .plain)
  else if c.toNat = 0xFE0F then (0, ⟨context.following.selected, some .emoji⟩)
  else if c.toNat = 0xFE0E then (0, ⟨context.following.selected, some .text⟩)
  else if context.style = some .text && textStyleBase.contains c then (1, .plain)
  else if context.following.isTransparent && c.toNat = 0x200D then
    (0, ⟨context.following.join, none⟩)
  else if context.following.isTransparent && isIgnorableMark c then
    (0, ⟨context.following, none⟩)
  else match ligature? context.following c with
    | some (columns, following) => (columns, ⟨following, none⟩)
    | none => (ofChar c, ⟨.ofChar c, none⟩)

/-- The columns of a text and the context it shows to its left. -/
def measure : List Char → Int × Context
  | [] => (0, .plain)
  | c :: rest =>
    let (total, context) := measure rest
    let (columns, context) := step c context
    (columns + total, context)

end Width

/-- The display width of a text in columns. -/
def displayWidth (text : List Char) : Nat :=
  (Width.measure text).1.toNat

/-- Columns between tab stops. -/
def tabWidth : Nat := 8

/-- Columns taken by a grapheme cluster printed at column `column`: a tab runs to
the next tab stop, everything else takes one column or two. -/
def clusterColumns (cluster : List Char) (column : Nat) : Nat :=
  if cluster = ['\t'] then tabWidth - column % tabWidth
  else min 2 (max 1 (displayWidth cluster))

theorem clusterColumns_pos (cluster : List Char) (column : Nat) :
    0 < clusterColumns cluster column := by
  unfold clusterColumns
  split
  · have := Nat.mod_lt column (show 0 < tabWidth by decide)
    omega
  · omega

theorem clusterColumns_le_tabWidth (cluster : List Char) (column : Nat) :
    clusterColumns cluster column ≤ tabWidth := by
  unfold clusterColumns
  split
  · exact Nat.sub_le _ _
  · exact Nat.le_trans (Nat.min_le_left _ _) (by decide)

end BidiViewport
