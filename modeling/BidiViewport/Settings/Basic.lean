import BidiViewport.Classifier.Basic
import BidiViewport.Event
import BidiViewport.Settings.Limit

/-!
# Settings

The settings as they were written, and the limit that is in effect.  The written limit is
never changed; the effective one is clamped again to the width of each context, so that a
window may shrink and grow without losing it.
-/

namespace BidiViewport

structure BidiSettings where
  /-- The most rows of a paragraph that is analysed. -/
  limit : Nat := defaultLimit
  /-- Substitute the presentation forms of joined letters. -/
  shaping : Bool := true
  /-- Mirror box drawing characters in right-to-left rows. -/
  boxMirror : Bool := false
  classifier : ClassifierKind := .unicode
deriving DecidableEq

/-- The storage that a viewport begins with. -/
structure ReserveSettings where
  rows : Nat := defaultReserveRows
  columns : Nat := defaultReserveColumns
deriving DecidableEq

/-- What a settings file says. -/
structure WrittenSettings where
  bidi : BidiSettings := {}
  reserve : ReserveSettings := {}
deriving DecidableEq

structure WindowSize where
  columns : Nat
  rows : Nat
deriving DecidableEq

structure Settings where
  /-- The text of the file they were read from. -/
  text : Option String := none
  written : WrittenSettings := {}
  effectiveLimit : Nat := defaultLimit
deriving DecidableEq

namespace Settings

/-- The settings that were written in a text, before any window is known. -/
def ofWritten (text : String) (written : WrittenSettings) : Settings where
  text := some text
  written
  effectiveLimit := max 1 written.bidi.limit

/-- The settings in a window. -/
def applyWindow (settings : Settings) (window : WindowSize) : Settings :=
  { settings with effectiveLimit := clampLimit settings.written.bidi.limit window.columns }

def applyWindowEvents (settings : Settings) (window : WindowSize) : List Event :=
  let raw := settings.written.bidi.limit
  let clamped := clampLimit raw window.columns
  if clamped = raw then []
  else
    [.settingsLimitClamped raw clamped (rowsWithinBudget window.columns) window.columns
      window.rows]

/-- The new limit when a window changes it. -/
def changedLimit? (settings : Settings) (window : WindowSize) : Option Nat :=
  let limit := (settings.applyWindow window).effectiveLimit
  if limit = settings.effectiveLimit then none else some limit

/-- The settings for layout with the limit in effect. -/
def effectiveBidi (settings : Settings) : BidiSettings :=
  { settings.written.bidi with limit := settings.effectiveLimit }

end Settings

end BidiViewport
