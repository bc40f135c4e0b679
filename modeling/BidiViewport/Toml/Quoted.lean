import BidiViewport.Toml.Number

/-!
# Quoted text of a settings document

Text stands between double quotes, where a backslash begins an escape, or between single
quotes, where every character stands for itself.  With the quotes tripled it may run over
several lines.  The functions here begin after the opening quotes and return the text and
what follows the closing ones.
-/

namespace BidiViewport.Toml

/-- Characters that may stand in a comment or on a line of text: no controls but the tab. -/
def isTextChar (c : Char) : Bool :=
  c = '\t' || (0x20 ≤ c.toNat && c.toNat ≠ 0x7F)

/-- Blank space within a line. -/
def isBlank (c : Char) : Bool :=
  c = ' ' || c = '\t'

namespace Quoted

/-- The character whose code point is written in hexadecimal digits. -/
def character? (digits : List Char) : Option Char := do
  let n ← digits.foldlM (fun n c => do return 16 * n + (← digitValue? 16 c)) 0
  if n.isValidChar then some (.ofNat n) else none

/-- The character that a letter stands for after a backslash. -/
def escaped? (c : Char) : Option Char :=
  [('b', '\x08'), ('t', '\t'), ('n', '\n'), ('f', '\x0c'), ('r', '\r'), ('e', '\x1b'),
    ('"', '"'), ('\\', '\\')].lookup c

/-- One more character in front of the text of a result. -/
def push (c : Option Char) (result : Option (List Char × List Char)) :
    Option (List Char × List Char) := do
  let c ← c
  let (text, rest) ← result
  return (c :: text, rest)

/-- Text in double quotes. -/
def basic : List Char → Option (List Char × List Char)
  | [] => none
  | '"' :: rest => some ([], rest)
  | '\\' :: 'x' :: a :: b :: rest => push (character? [a, b]) (basic rest)
  | '\\' :: 'u' :: a :: b :: c :: d :: rest => push (character? [a, b, c, d]) (basic rest)
  | '\\' :: 'U' :: a :: b :: c :: d :: e :: f :: g :: h :: rest =>
    push (character? [a, b, c, d, e, f, g, h]) (basic rest)
  | '\\' :: c :: rest => push (escaped? c) (basic rest)
  | c :: rest => push (if isTextChar c then some c else none) (basic rest)

/-- Text in single quotes. -/
def literal : List Char → Option (List Char × List Char)
  | [] => none
  | '\'' :: rest => some ([], rest)
  | c :: rest => push (if isTextChar c then some c else none) (literal rest)

/-- Nothing but blank space is left on the line. -/
def endsLine (text : List Char) : Bool :=
  match text.dropWhile isBlank with
  | '\n' :: _ => true
  | '\r' :: '\n' :: _ => true
  | _ => false

/-- Text in tripled double quotes.  A backslash at the end of a line swallows the white
space that follows, and `swallowing` says that this is going on. -/
def basicBlock (swallowing : Bool) : List Char → Option (List Char × List Char)
  | [] => none
  | '"' :: '"' :: '"' :: '"' :: '"' :: rest => some (['"', '"'], rest)
  | '"' :: '"' :: '"' :: '"' :: rest => some (['"'], rest)
  | '"' :: '"' :: '"' :: rest => some ([], rest)
  | '\\' :: 'x' :: a :: b :: rest => push (character? [a, b]) (basicBlock false rest)
  | '\\' :: 'u' :: a :: b :: c :: d :: rest =>
    push (character? [a, b, c, d]) (basicBlock false rest)
  | '\\' :: 'U' :: a :: b :: c :: d :: e :: f :: g :: h :: rest =>
    push (character? [a, b, c, d, e, f, g, h]) (basicBlock false rest)
  | '\\' :: c :: rest =>
    if endsLine (c :: rest) then basicBlock true (c :: rest)
    else push (escaped? c) (basicBlock false rest)
  | '\r' :: '\n' :: rest =>
    if swallowing then basicBlock true rest
    else push (some '\r') (push (some '\n') (basicBlock false rest))
  | c :: rest =>
    if isBlank c || c = '\n' then
      if swallowing then basicBlock true rest else push (some c) (basicBlock false rest)
    else push (if isTextChar c then some c else none) (basicBlock false rest)

/-- Text in tripled single quotes. -/
def literalBlock : List Char → Option (List Char × List Char)
  | [] => none
  | '\'' :: '\'' :: '\'' :: '\'' :: '\'' :: rest => some (['\'', '\''], rest)
  | '\'' :: '\'' :: '\'' :: '\'' :: rest => some (['\''], rest)
  | '\'' :: '\'' :: '\'' :: rest => some ([], rest)
  | '\r' :: '\n' :: rest => push (some '\r') (push (some '\n') (literalBlock rest))
  | c :: rest => push (if c = '\n' || isTextChar c then some c else none) (literalBlock rest)

/-- A line break right after opening quotes is not part of the text. -/
def dropFirstBreak : List Char → List Char
  | '\n' :: rest => rest
  | '\r' :: '\n' :: rest => rest
  | rest => rest

end Quoted

end BidiViewport.Toml
