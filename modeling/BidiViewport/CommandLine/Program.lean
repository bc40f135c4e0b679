import BidiViewport.CommandLine.Screen
import BidiViewport.Settings.Location

/-!
# The program

A run reads the text and the settings from a host, lays the text out and reports what to
print and how the program ends.  The host may be the file system or any table of files.
-/

namespace BidiViewport

/-- Why a file cannot be read. -/
inductive ReadError
  | notFound
  | denied
  | notDirectory
  | isDirectory
  /-- The file is not text. -/
  | notText
deriving DecidableEq

def ReadError.message : ReadError → String
  | notFound => "No such file or directory (os error 2)"
  | denied => "Permission denied (os error 13)"
  | notDirectory => "Not a directory (os error 20)"
  | isDirectory => "Is a directory (os error 21)"
  | notText => "stream did not contain valid UTF-8"

/-- There is something at a path, even if it cannot be read. -/
def isPresent {α : Type} : Except ReadError α → Bool
  | .error .notFound => false
  | _ => true

/-- What a run needs of its surroundings. -/
structure Host (m : Type → Type) where
  read : String → m (Except ReadError ByteArray)
  home : Option String
  /-- The configuration directory that the environment names. -/
  configuration : Option String
  /-- The home directory of the account, if it is known. -/
  accountHome : Option String

structure Report where
  code : Nat := 0
  output : String := ""
  errors : String := ""
deriving DecidableEq

namespace Program

def version : String := "ringview 0.0.1\n"

def usage : String :=
  "Usage: ringview [PATH] [--width N] [--start N] [--rows N] [--rtl] [--auto] [--explicit]\n"
    ++ "                [--map] [--config PATH]\n"

/-- The text laid out without a file. -/
def sample : String :=
  "plain left-to-right text\n"
    ++ "\u05E9\u05DC\u05D5\u05DD world, \u05E2\u05D5\u05DC\u05DD (hello)\n"
    ++ "\u0645\u0631\u062D\u0628\u0627 \u0628\u0627\u0644\u0639\u0627\u0644\u0645 123\n"
    ++ "\u250C\u2500\u2500\u2510 box \u05D0\u05D1\u05D2\n"
    ++ "a long line that wraps across several rows while "
    ++ "\u05D4\u05E2\u05D1\u05E8\u05D9\u05EA continues on the next row\n"

/-- A run that fails. -/
def failed (message : String) : Report where
  code := 1
  errors := "Error: " ++ message ++ "\n"

/-- A run that breaks off because a size would be too large.  What it says then names a place in
the program and is left out. -/
def brokenOff : Report where
  code := 101

variable {m : Type → Type} [Monad m]

/-- The text to lay out. -/
def text (host : Host m) (path : Option String) : m (Except ReadError String) := do
  match path with
  | none => return .ok sample
  | some path =>
    match ← host.read path with
    | .error error => return .error error
    | .ok content =>
      match String.fromUTF8? content with
      | some text => return .ok text
      | none => return .error .notText

/-- The settings: those of the file named, or of the one found. -/
def settings (host : Host m) (path : Option String) : m Settings := do
  match path with
  | some path => return .ofFile (← host.read path).toOption
  | none =>
    let search : SettingsSearch :=
      { hasLocal := isPresent (← host.read SettingsSearch.fileName)
        home := host.home
        accountHome := host.accountHome
        configuration := host.configuration }
    return .ofFile (← host.read search.path).toOption

/-- Lays out a text as the arguments ask for. -/
def layout (host : Host m) (arguments : Arguments) : m Report := do
  if arguments.width = 0 then
    return failed "--width must be at least 1"
  match ← text host arguments.path with
  | .error error => return failed error.message
  | .ok text =>
    match Screen.ofText? text.toList (← settings host arguments.settings) arguments with
    | some screen => return { output := screen.print arguments.map }
    | none => return brokenOff

def run (host : Host m) (arguments : List String) : m Report := do
  match Invocation.ofArguments arguments with
  | .layout arguments => layout host arguments
  | .version => return { output := version }
  | .help => return { output := usage }
  | .misuse => return { code := 2, errors := usage }

end Program

end BidiViewport
