import BidiViewport.Toml.Reader

/-!
# Documents

A document is a sequence of sections, each under a header but the first.  The assignments
of a section fill a table, and the tables are put together in the order of the headers.
-/

namespace BidiViewport.Toml

/-- A header and the assignments under it. -/
structure Section where
  name : DottedKey
  /-- The header has double brackets and adds to an array. -/
  isItem : Bool
  pairs : List (DottedKey × Value)

/-- The assignments in front of all headers, and the sections. -/
def sections : List Statement → List (DottedKey × Value) × List Section
  | [] => ([], [])
  | .assignment name value :: rest =>
    let (pairs, later) := sections rest
    ((name, value) :: pairs, later)
  | .header name :: rest =>
    let (pairs, later) := sections rest
    ([], { name, isItem := false, pairs } :: later)
  | .arrayHeader name :: rest =>
    let (pairs, later) := sections rest
    ([], { name, isItem := true, pairs } :: later)

namespace Section

/-- The table of the section in its parent.  A header may name a table that was only
implied so far, and adds to it. -/
def addTo? (s : Section) (parent : Entries) : Option Entries := do
  match s.isItem, parent.get? s.name.key with
  | false, none =>
    return parent.set s.name.key (.table .header (← Entries.assignAll? [] s.pairs))
  | false, some (.table .implied entries) =>
    return parent.set s.name.key (.table .header (← Entries.assignAll? entries s.pairs))
  | true, none =>
    return parent.set s.name.key (.tables [.table .header (← Entries.assignAll? [] s.pairs)])
  | true, some (.tables items) =>
    return parent.set s.name.key
      (.tables (items ++ [.table .header (← Entries.assignAll? [] s.pairs)]))
  | _, some _ => none

/-- The document with the section. -/
def extend? (document : Entries) (s : Section) : Option Entries :=
  document.update? .implied (fun _ parent => s.addTo? parent) s.name.path .header

end Section

/-- The top-level entries of a document, `none` when the text is not a document. -/
def document? (text : List Char) : Option Entries := do
  let (pairs, later) := sections (← statements? text)
  later.foldlM Section.extend? (← Entries.assignAll? [] pairs)

end BidiViewport.Toml
