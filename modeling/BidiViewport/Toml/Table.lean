import BidiViewport.Toml.Value

/-!
# Adding to tables

A table may be spread over a document, but each key is given a value once, and a table
that is complete is not extended.  `Entries.update?` changes the table at the end of a
path, making the tables on the way.
-/

namespace BidiViewport.Toml

/-- A dotted key or the name in a header: the tables on the way and the last key. -/
structure DottedKey where
  path : List Key
  key : Key
deriving DecidableEq

namespace Entries

/-- The value of a key. -/
def get? (entries : Entries) (key : Key) : Option Value :=
  entries.lookup key

/-- The entries without those of a key. -/
def erase (entries : Entries) (key : Key) : Entries :=
  entries.filter fun entry => entry.1 ≠ key

/-- The entries with another value for a key. -/
def set (entries : Entries) (key : Key) (value : Value) : Entries :=
  entries.erase key ++ [(key, value)]

/-- The entries with a value for a new key. -/
def insertNew? (entries : Entries) (key : Key) (value : Value) : Option Entries :=
  if (entries.get? key).isSome then none else some (entries.set key value)

/-- Changes the table at the end of a path by `change`, which is told how that table came
to be.  Missing tables on the way are made with the origin `made`.  An array of tables is
entered at its last one. -/
def update? (made : TableOrigin) (change : TableOrigin → Entries → Option Entries) :
    (path : List Key) → (origin : TableOrigin) → Entries → Option Entries
  | [], origin, entries => change origin entries
  | key :: path, _, entries =>
    match entries.get? key with
    | none => do return entries.set key (.table made (← update? made change path made []))
    | some (.table origin inner) =>
      match origin with
      | .inline => none
      | .header =>
        if made = .dotted then none
        else do return entries.set key (.table origin (← update? made change path origin inner))
      | _ => do return entries.set key (.table origin (← update? made change path origin inner))
    | some (.tables items) =>
      match items.getLast? with
      | some (.table origin inner) => do
        let inner ← update? made change path origin inner
        return entries.set key (.tables (items.dropLast ++ [.table origin inner]))
      | _ => none
    | some _ => none

/-- The entries with the value of a dotted key.  Dots lead only through tables that dots
have made. -/
def assign? (entries : Entries) (name : DottedKey) (value : Value) : Option Entries :=
  update? .dotted
    (fun origin entries =>
      if origin = .dotted ∨ name.path = [] then entries.insertNew? name.key value else none)
    name.path .header entries

/-- The entries with the values of several dotted keys. -/
def assignAll? (entries : Entries) (pairs : List (DottedKey × Value)) : Option Entries :=
  pairs.foldlM (fun entries (name, value) => entries.assign? name value) entries

end Entries

end BidiViewport.Toml
