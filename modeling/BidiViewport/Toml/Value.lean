/-!
# Values of a settings document

A document in the TOML format is a table of values.  A table remembers how it came to
be, because that decides whether later lines may add to it.  Numbers that no reader can
hold are values too, and are found out only where something reads them
(`Value.isReadable`).
-/

namespace BidiViewport.Toml

/-- A key, without quotes. -/
abbrev Key := List Char

/-- How a table came to be. -/
inductive TableOrigin
  /-- The document itself, or a header names the table. -/
  | header
  /-- The table lies on the way to one that a header names. -/
  | implied
  /-- A dotted key goes through the table. -/
  | dotted
  /-- The table is written between braces, and complete. -/
  | inline
deriving DecidableEq

/-- A value of a document. -/
inductive Value
  | text (characters : List Char)
  | integer (n : Int)
  /-- Only whether it is too large for a double matters. -/
  | float (overflows : Bool)
  | dateTime
  | boolean (b : Bool)
  | array (items : List Value)
  /-- An array to which each header in double brackets adds a table. -/
  | tables (items : List Value)
  | table (origin : TableOrigin) (entries : List (Key × Value))

/-- The entries of a table, in the order they were written. -/
abbrev Entries := List (Key × Value)

namespace Value

/-- Integers that a reader can hold: those of 128 bits, with a sign or without. -/
def integerInRange (n : Int) : Bool :=
  -(Nat.pow 2 127 : Int) ≤ n && n < Nat.pow 2 128

mutual

/-- Every number in the value can be held. -/
def isReadable : Value → Bool
  | .integer n => integerInRange n
  | .float overflows => !overflows
  | .array items => areReadable items
  | .tables items => areReadable items
  | .table _ entries => entriesReadable entries
  | .text _ => true
  | .dateTime => true
  | .boolean _ => true

/-- Every number in the values can be held. -/
def areReadable : List Value → Bool
  | [] => true
  | item :: rest => item.isReadable && areReadable rest

/-- Every number in the entries can be held. -/
def entriesReadable : List (Key × Value) → Bool
  | [] => true
  | (_, item) :: rest => item.isReadable && entriesReadable rest

end

end Value

end BidiViewport.Toml
