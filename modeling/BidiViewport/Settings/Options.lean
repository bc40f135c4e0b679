import BidiViewport.Settings.Basic

/-!
# Viewport options

What a viewport is made from: the limit and shaping of the layout settings, and how much
storage to begin with.
-/

namespace BidiViewport

/-- How a viewport begins. -/
structure ViewportOptions where
  /-- The most rows of a paragraph that is analysed, before clamping. -/
  limit : Nat := defaultLimit
  shaping : Bool := true
  /-- The number of row maps to begin with. -/
  reserveRows : Nat := defaultReserveRows
  /-- The columns that each row map has room for to begin with. -/
  reserveColumns : Nat := defaultReserveColumns
deriving DecidableEq

namespace ViewportOptions

/-- The options that the layout settings ask for. -/
def ofBidi (bidi : BidiSettings) : ViewportOptions where
  limit := max 1 bidi.limit
  shaping := bidi.shaping

/-- The options that the settings in use ask for. -/
def ofSettings (settings : Settings) : ViewportOptions :=
  { ofBidi settings.effectiveBidi with
    reserveRows := max 1 settings.written.reserve.rows
    reserveColumns := max 1 settings.written.reserve.columns }

end ViewportOptions

end BidiViewport
