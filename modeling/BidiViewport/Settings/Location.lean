/-!
# Where the settings are

The settings file of the working directory comes first.  Otherwise it is in the user's
configuration directory: the one that the environment names, or the usual one in the
home directory.
-/

namespace BidiViewport

/-- What decides where the settings are. -/
structure SettingsSearch where
  /-- The working directory has a settings file. -/
  hasLocal : Bool
  home : Option String
  /-- The home directory of the account, for an environment without one. -/
  accountHome : Option String
  configuration : Option String

namespace SettingsSearch

def fileName : String := "ringview.toml"

def below (directory name : String) : String :=
  if directory.endsWith "/" then directory ++ name else directory ++ "/" ++ name

def homeDirectory? (search : SettingsSearch) : Option String :=
  match search.home.filter (!·.isEmpty) with
  | some home => some home
  | none => search.accountHome

/-- The configuration directory.  Only an absolute path is taken from the environment. -/
def directory? (search : SettingsSearch) : Option String :=
  match search.configuration.filter (·.startsWith "/") with
  | some directory => some directory
  | none => search.homeDirectory?.map (below · ".config")

def path (search : SettingsSearch) : String :=
  if search.hasLocal then fileName
  else
    match search.directory? with
    | some directory => below (below directory "ringview") fileName
    | none => fileName

end SettingsSearch

end BidiViewport
