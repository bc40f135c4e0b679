import BidiViewport.Proofs.Viewport.Limits
import BidiViewport.Settings.File

/-!
# Settings in windows

Settings are read from a file once and then used in one window after another.  They are told of
each window by a command (`Settings.Command`), and `Settings.replay` is what becomes of them.

The written settings stay as they were read, and the limit in effect depends on the last window
alone (`Settings.isIn_replay`): each window clamps the written limit and not the one before.
A limit that changes is reported, so that whoever keeps the last limit that was told has the one
in effect (`Settings.effectiveLimit_replay`).
-/

namespace BidiViewport

/-! ## The limit of a window -/

theorem clampLimit_le_characterBudget (limit columns : Nat) :
    clampLimit limit columns ≤ characterBudget := by
  have hrows : characterBudget / max 1 columns ≤ characterBudget := Nat.div_le_self _ _
  have hbudget : 1 ≤ characterBudget := by decide
  unfold clampLimit rowsWithinBudget
  omega

/-- No window is so wide that one row of it is above the budget. -/
theorem clampLimit_mul_le_of_le_maxWindow (limit : Nat) {columns : Nat} (h : columns ≤ maxWindow) :
    clampLimit limit columns * columns ≤ characterBudget := by
  have hwindow : maxWindow ≤ characterBudget := by decide
  rcases clampLimit_mul_le limit columns with hwithin | hone
  · exact hwithin
  · rw [hone, Nat.one_mul]
    exact Nat.le_trans h hwindow

namespace Settings

/-! ## Commands -/

/-- What settings are told of a window. -/
inductive Command
  /-- They are used in the window; the answer is the limit. -/
  | apply (window : WindowSize)
  /-- The window is the new one; the answer is the limit if it is a new one too. -/
  | recompute (window : WindowSize)

def Command.window : Command → WindowSize
  | apply window | recompute window => window

def step (settings : Settings) (command : Command) : Settings :=
  settings.applyWindow command.window

def answer? (settings : Settings) : Command → Option Nat
  | .apply window => some (settings.applyWindow window).effectiveLimit
  | .recompute window => settings.changedLimit? window

/-- The settings after commands. -/
def replay (settings : Settings) (commands : List Command) : Settings :=
  commands.foldl step settings

/-- The limits that are told in answer to commands. -/
def told (settings : Settings) : List Command → List Nat
  | [] => []
  | command :: rest => (settings.answer? command).toList ++ (settings.step command).told rest

theorem replay_concat (settings : Settings) (commands : List Command) (last : Command) :
    settings.replay (commands ++ [last]) = (settings.replay commands).step last := by
  unfold replay
  rw [List.foldl_append]
  rfl

/-! ## What commands leave alone -/

/-- Only the limit in effect is ever changed. -/
theorem kept_replay (settings : Settings) (commands : List Command) :
    (settings.replay commands).text = settings.text ∧
      (settings.replay commands).written = settings.written := by
  induction commands generalizing settings with
  | nil => exact ⟨rfl, rfl⟩
  | cons command rest ih => exact ih (settings.step command)

/-! ## Reading a file -/

/-- What is read of a file with this content, which may be missing. -/
inductive Loads (content : Option ByteArray) (loaded : Settings) : Prop
  /-- The file is text, and the text a document that settings are written in. -/
  | understood {text : String} {document : Toml.Entries} (hcontent : content = some text.toUTF8)
      (hdocument : Toml.document? text.toList = some document)
      (hwritten : SettingsFile.written? document = some loaded.written)
      (hlimit : ∀ (origin : Toml.TableOrigin) (entries : Toml.Entries) (n : Int),
        document.get? "bidi".toList = some (.table origin entries) →
          entries.get? "paragraph_length_max".toList = some (.integer n) →
            loaded.written.bidi.limit = n)
      (htext : loaded.text = some text)
  /-- There is no file, or it is not text, or the text is not understood.  Everything is as if
  nothing had been written. -/
  | ignored (h : ∀ (text : String) (document : Toml.Entries), content = some text.toUTF8 →
        Toml.document? text.toList = some document → SettingsFile.written? document = none)
      (hwritten : loaded.written = {}) (htext : loaded.text = none)

/-- A text is understood exactly if it is a document that settings are written in. -/
theorem read?_eq_some_iff {text : String} {loaded : Settings} :
    SettingsFile.read? text = some loaded ↔ ∃ document written,
      Toml.document? text.toList = some document ∧
        SettingsFile.written? document = some written ∧ loaded = ofWritten text written := by
  constructor
  · intro h
    obtain ⟨document, hdocument, hrest⟩ := Option.bind_eq_some_iff.1 h
    obtain ⟨written, hwritten, hloaded⟩ := Option.bind_eq_some_iff.1 hrest
    exact ⟨document, written, hdocument, hwritten, (Option.some.inj hloaded).symm⟩
  · rintro ⟨document, written, hdocument, hwritten, rfl⟩
    unfold SettingsFile.read?
    rw [hdocument, Option.bind_eq_bind, Option.bind_some, hwritten]
    rfl

/-- A file that cannot be used is as good as none.  Settings that were read have a limit of at
least one row. -/
theorem loads_ofFile (content : Option ByteArray) :
    Loads content (ofFile content) ∧
      (ofFile content).effectiveLimit = max 1 (ofFile content).written.bidi.limit := by
  unfold ofFile
  cases hread : (content.bind String.fromUTF8?).bind SettingsFile.read? with
  | none =>
    refine ⟨.ignored (fun text document hcontent hdocument => ?_) rfl rfl, rfl⟩
    rw [hcontent, Option.bind_some, fromUTF8?_eq_some_iff.2 rfl, Option.bind_some] at hread
    refine Option.eq_none_iff_forall_ne_some.2 fun written hwritten => ?_
    have hunderstood := read?_eq_some_iff.2 ⟨document, written, hdocument, hwritten, rfl⟩
    rw [hread] at hunderstood
    cases hunderstood
  | some loaded =>
    obtain ⟨text, htext, hloaded⟩ := Option.bind_eq_some_iff.1 hread
    obtain ⟨bytes, rfl, hbytes⟩ := Option.bind_eq_some_iff.1 htext
    obtain rfl := fromUTF8?_eq_some_iff.1 hbytes
    obtain ⟨document, written, hdocument, hwritten, rfl⟩ := read?_eq_some_iff.1 hloaded
    exact ⟨.understood rfl hdocument hwritten
      (fun _ _ _ => SettingsFile.limit_of_written? hwritten) rfl, rfl⟩

/-! ## What is told -/

theorem changedLimit?_eq_some_iff {settings : Settings} {window : WindowSize} {limit : Nat} :
    settings.changedLimit? window = some limit ↔
      limit = (settings.applyWindow window).effectiveLimit ∧ limit ≠ settings.effectiveLimit := by
  unfold changedLimit?
  dsimp only
  split
  · next hsame =>
    constructor
    · intro h
      cases h
    · rintro ⟨rfl, hchanged⟩
      exact absurd hsame hchanged
  · next hchanged =>
    constructor
    · intro h
      obtain rfl := Option.some.inj h
      exact ⟨rfl, hchanged⟩
    · rintro ⟨rfl, -⟩
      rfl

/-- A command that is not answered leaves the limit as it is. -/
theorem effectiveLimit_step (settings : Settings) (command : Command) :
    (settings.step command).effectiveLimit =
      (settings.answer? command).getD settings.effectiveLimit := by
  cases command with
  | apply window => rfl
  | recompute window =>
    unfold answer? changedLimit?
    dsimp only
    split
    · next hsame => exact hsame
    · rfl

/-- The limit in effect is the last one that was told. -/
theorem effectiveLimit_replay (settings : Settings) (commands : List Command) :
    (settings.replay commands).effectiveLimit =
      (settings.told commands).getLastD settings.effectiveLimit := by
  induction commands generalizing settings with
  | nil => rfl
  | cons command rest ih =>
    have hrest : (settings.replay (command :: rest)).effectiveLimit =
        ((settings.step command).told rest).getLastD
          ((settings.answer? command).getD settings.effectiveLimit) := by
      rw [← effectiveLimit_step]
      exact ih _
    rw [hrest, told]
    cases settings.answer? command with
    | none => rfl
    | some limit =>
      rw [Option.toList_some, List.singleton_append, List.getLastD_cons]
      rfl

/-! ## Settings of a file in use -/

/-- Settings that were read as `loaded` and are now in a window. -/
structure IsIn (settings loaded : Settings) (window : WindowSize) : Prop where
  text_eq : settings.text = loaded.text
  written_eq : settings.written = loaded.written
  limit_eq : settings.effectiveLimit = clampLimit loaded.written.bidi.limit window.columns
  /-- The written limit is the one in effect exactly if it can be had in the window. -/
  written_iff : settings.effectiveLimit = loaded.written.bidi.limit ↔
    1 ≤ loaded.written.bidi.limit ∧
      loaded.written.bidi.limit ≤ rowsWithinBudget window.columns
  limit_pos : 1 ≤ settings.effectiveLimit
  limit_le : settings.effectiveLimit ≤ characterBudget
  /-- So many rows of the window are within the budget. -/
  mul_le : window.columns ≤ maxWindow →
    settings.effectiveLimit * window.columns ≤ characterBudget

/-- What is made from settings has the limit in effect, and storage to begin with. -/
structure Provides (settings : Settings) : Prop where
  bidi_eq : settings.effectiveBidi =
    { settings.written.bidi with limit := settings.effectiveLimit }
  limit_eq : (ViewportOptions.ofSettings settings).limit = settings.effectiveLimit
  shaping_eq : (ViewportOptions.ofSettings settings).shaping = settings.written.bidi.shaping
  rows_pos : 1 ≤ (ViewportOptions.ofSettings settings).reserveRows
  columns_pos : 1 ≤ (ViewportOptions.ofSettings settings).reserveColumns

theorem isIn_step {loaded settings : Settings} (htext : settings.text = loaded.text)
    (hwritten : settings.written = loaded.written) (command : Command) :
    (settings.step command).IsIn loaded command.window := by
  have hlimit : (settings.step command).effectiveLimit =
      clampLimit loaded.written.bidi.limit command.window.columns := by
    rw [← hwritten]
    rfl
  refine ⟨htext, hwritten, hlimit, ?_, ?_, ?_, fun hwindow => ?_⟩
  · rw [hlimit]
    exact clampLimit_eq_self_iff
  · rw [hlimit]
    exact clampLimit_pos _ _
  · rw [hlimit]
    exact clampLimit_le_characterBudget _ _
  · rw [hlimit]
    exact clampLimit_mul_le_of_le_maxWindow _ hwindow

theorem provides_of_pos {settings : Settings} (h : 1 ≤ settings.effectiveLimit) :
    settings.Provides :=
  ⟨rfl, Nat.max_eq_right h, rfl, Nat.le_max_left _ _, Nat.le_max_left _ _⟩

/-- Whatever a file holds, settings with a limit are read from it, and whatever windows they are
used in then, their limit is the written one as the last window allows it.  A new window is
answered with a limit exactly if this is another one than before. -/
theorem isIn_replay (content : Option ByteArray) (commands : List Command) (last : Command) :
    let loaded := ofFile content
    let before := loaded.replay commands
    let settings := loaded.replay (commands ++ [last])
    Loads content loaded ∧
      loaded.effectiveLimit = max 1 loaded.written.bidi.limit ∧ loaded.Provides ∧
      settings.IsIn loaded last.window ∧ settings.Provides ∧
      (∀ limit, before.answer? (.recompute last.window) = some limit ↔
        limit = settings.effectiveLimit ∧ limit ≠ before.effectiveLimit) ∧
      settings.effectiveLimit =
        (loaded.told (commands ++ [last])).getLastD loaded.effectiveLimit := by
  intro loaded before settings
  obtain ⟨hloads, hloaded⟩ := loads_ofFile content
  have hstep : settings = before.step last := replay_concat loaded commands last
  obtain ⟨htext, hwritten⟩ := kept_replay loaded commands
  have hin : settings.IsIn loaded last.window := by
    rw [hstep]
    exact isIn_step htext hwritten last
  refine ⟨hloads, hloaded, provides_of_pos ?_, hin, provides_of_pos hin.limit_pos,
    fun limit => ?_, effectiveLimit_replay loaded _⟩
  · exact hloaded ▸ Nat.le_max_left _ _
  · rw [hstep]
    exact changedLimit?_eq_some_iff

/-- Windows that are too wide for the written limit do not make it forgotten. -/
example :
    let settings := ofFile (some "[bidi]\nparagraph_length_max = 5000\n".toUTF8)
    settings.told
        [.apply ⟨80, 24⟩, .recompute ⟨400, 24⟩, .recompute ⟨400, 30⟩, .recompute ⟨0, 30⟩] =
      [5000, 2621, 5000] := by
  decide +kernel

end Settings

end BidiViewport
