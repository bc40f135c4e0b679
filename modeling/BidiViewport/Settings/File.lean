import BidiViewport.Settings.Basic
import BidiViewport.Toml.Document

/-!
# The settings file

A settings file is a document with a table `bidi` and a table `viewport`.  Every field may
be left out and unknown fields are ignored.  A file that cannot be understood is ignored as
a whole, so reading settings never fails.
-/

namespace BidiViewport

namespace SettingsFile

open Toml (Value Entries)

/-- A size: an integer that is neither negative nor too large. -/
def size? : Value → Option Nat
  | .integer n => if 0 ≤ n ∧ n ≤ maxSize then some n.toNat else none
  | _ => none

/-- A truth value. -/
def flag? : Value → Option Bool
  | .boolean b => some b
  | _ => none

/-- The classifier of a name. -/
def classifierNamed? (name : List Char) : Option ClassifierKind :=
  if name = "unicode".toList then some .unicode
  else if name = "explicit".toList then some .explicit
  else none

/-- A classifier: its name, or a table in which the name is the only key and has an empty
value. -/
def classifier? : Value → Option ClassifierKind
  | .text name => classifierNamed? name
  | .table _ [(name, .array [])] => classifierNamed? name
  | .table _ [(name, .table _ [])] => classifierNamed? name
  | _ => none

/-- A field that may be left out. -/
def field? {α : Type} (read : Value → Option α) (default : α) : Option Value → Option α
  | none => some default
  | some value => read value

/-- The fields of a table in their order.  A table may also be written as an array of the
first fields, and a date counts as a table without any of them.  Other fields are ignored,
but have to be readable. -/
def fields? (names : List String) : Value → Option (List (Option Value))
  | .table _ entries =>
    if entries.all fun entry => names.any (·.toList = entry.1) || entry.2.isReadable then
      some (names.map fun name => Entries.get? entries name.toList)
    else none
  | .array items => some (names.mapIdx fun i _ => items[i]?)
  | .tables items => some (names.mapIdx fun i _ => items[i]?)
  | .dateTime => some (names.map fun _ => none)
  | _ => none

/-- The layout settings of the table `bidi`. -/
def bidi? (value : Value) : Option BidiSettings := do
  match ← fields? ["paragraph_length_max", "shaping", "box_mirror", "classifier"] value with
  | [limit, shaping, boxMirror, classifier] =>
    return {
      limit := ← field? size? defaultLimit limit
      shaping := ← field? flag? true shaping
      boxMirror := ← field? flag? false boxMirror
      classifier := ← field? classifier? .unicode classifier }
  | _ => none

/-- The storage settings of the table `viewport`. -/
def reserve? (value : Value) : Option ReserveSettings := do
  match ← fields? ["reserve_rows", "reserve_columns"] value with
  | [rows, columns] =>
    return {
      rows := ← field? size? defaultReserveRows rows
      columns := ← field? size? defaultReserveColumns columns }
  | _ => none

/-- The settings that a document holds. -/
def written? (document : Entries) : Option WrittenSettings := do
  match ← fields? ["bidi", "viewport"] (.table .header document) with
  | [bidi, reserve] =>
    return {
      bidi := ← field? bidi? {} bidi
      reserve := ← field? reserve? {} reserve }
  | _ => none

/-- The settings that a text holds. -/
def read? (text : String) : Option Settings := do
  return .ofWritten text (← written? (← Toml.document? text.toList))

/-! ## What is written -/

/-- The fields of a table are its entries under the names of the fields. -/
theorem eq_map_of_fields? {names : List String} {origin : Toml.TableOrigin} {entries : Entries}
    {values : List (Option Value)} (h : fields? names (.table origin entries) = some values) :
    values = names.map fun name => Entries.get? entries name.toList := by
  obtain ⟨-, hvalues⟩ := Option.ite_none_right_eq_some.1 h
  exact (Option.some.inj hvalues).symm

theorem limit_of_bidi? {origin : Toml.TableOrigin} {entries : Entries} {settings : BidiSettings}
    (h : bidi? (.table origin entries) = some settings) :
    field? size? defaultLimit (Entries.get? entries "paragraph_length_max".toList) =
      some settings.limit := by
  obtain ⟨values, hvalues, hrest⟩ := Option.bind_eq_some_iff.1 h
  obtain rfl := eq_map_of_fields? hvalues
  obtain ⟨limit, hlimit, hrest⟩ := Option.bind_eq_some_iff.1 hrest
  obtain ⟨shaping, -, hrest⟩ := Option.bind_eq_some_iff.1 hrest
  obtain ⟨boxMirror, -, hrest⟩ := Option.bind_eq_some_iff.1 hrest
  obtain ⟨classifier, -, hrest⟩ := Option.bind_eq_some_iff.1 hrest
  obtain rfl := Option.some.inj hrest
  exact hlimit

/-- The limit is the number that stands in the table `bidi` of the document. -/
theorem limit_of_written? {document entries : Entries} {origin : Toml.TableOrigin} {n : Int}
    {written : WrittenSettings} (h : written? document = some written)
    (hbidi : Entries.get? document "bidi".toList = some (.table origin entries))
    (hlimit : Entries.get? entries "paragraph_length_max".toList = some (.integer n)) :
    written.bidi.limit = n := by
  obtain ⟨values, hvalues, hrest⟩ := Option.bind_eq_some_iff.1 h
  obtain rfl := eq_map_of_fields? hvalues
  obtain ⟨bidi, hread, hrest⟩ := Option.bind_eq_some_iff.1 hrest
  obtain ⟨reserve, -, hrest⟩ := Option.bind_eq_some_iff.1 hrest
  obtain rfl := Option.some.inj hrest
  dsimp only at hread
  rw [hbidi] at hread
  have hsize := limit_of_bidi? hread
  rw [hlimit] at hsize
  unfold field? size? at hsize
  dsimp only at hsize
  split at hsize
  · next hrange =>
    have hread : n.toNat = bidi.limit := Option.some.inj hsize
    exact hread ▸ Int.toNat_of_nonneg hrange.1
  · cases hsize

end SettingsFile

/-! ## Texts as bytes -/

/-- Bytes are a text exactly if they are the ones it is written as. -/
theorem fromUTF8?_eq_some_iff {content : ByteArray} {text : String} :
    String.fromUTF8? content = some text ↔ content = text.toUTF8 := by
  constructor
  · intro h
    unfold String.fromUTF8? at h
    split at h
    · obtain rfl := Option.some.inj h
      rfl
    · cases h
  · rintro rfl
    have hvalid : text.toUTF8.IsValidUTF8 := text.isValidUTF8
    unfold String.fromUTF8?
    rw [dif_pos hvalid]
    rfl

namespace Settings

/-- The settings of a file with this content, which may be missing or not be text. -/
def ofFile (content : Option ByteArray) : Settings :=
  ((content.bind String.fromUTF8?).bind SettingsFile.read?).getD {}

/-- What reading a file with this content reports. -/
def ofFileEvents (content : Option ByteArray) : List Event :=
  match content.bind String.fromUTF8? with
  | some text => if (SettingsFile.read? text).isSome then [] else [.settingsRejected]
  | none => []

end Settings

end BidiViewport
