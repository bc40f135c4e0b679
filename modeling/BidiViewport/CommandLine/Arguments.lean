import BidiViewport.Direction
import BidiViewport.Settings.File

/-!
# Arguments

The arguments of the program are read from left to right.  The first one that is wrong, or
that asks for information only, decides.  A setting takes its value after an equals sign or
from the next argument, which then must not look like an option.
-/

namespace BidiViewport

/-- What the program is asked to lay out. -/
structure Arguments where
  /-- The file with the text; a sample without it. -/
  path : Option String := none
  width : Nat := 40
  start : Option Nat := none
  rows : Option Nat := none
  rtl : Bool := false
  auto : Bool := false
  explicit : Bool := false
  /-- Print the columns of each row after it. -/
  map : Bool := false
  settings : Option String := none
deriving DecidableEq

/-- The direction switches of every row. -/
def Arguments.flags (arguments : Arguments) (boxMirror : Bool) : DirectionFlags where
  implicit := !arguments.explicit
  rtl := arguments.rtl
  auto := arguments.auto
  boxMirror

/-- What the arguments ask for. -/
inductive Invocation
  | layout (arguments : Arguments)
  | version
  | help
  /-- The arguments are wrong. -/
  | misuse
deriving DecidableEq

namespace Invocation

/-- An option that is on or off. -/
inductive Switch
  | rtl
  | auto
  | explicit
  | map
deriving DecidableEq

/-- An option with a value. -/
inductive Setting
  | width
  | start
  | rows
  | settings
deriving DecidableEq

/-- What an option's name stands for. -/
inductive Meaning
  | switch (switch : Switch)
  | setting (setting : Setting)
  | inform (invocation : Invocation)

/-- The arguments read so far, and which options have been given. -/
structure Progress where
  arguments : Arguments := {}
  switches : List Switch := []
  settings : List Setting := []

/-- The option of a name. -/
def option? (name : String) : Option Meaning :=
  [("rtl", .switch .rtl), ("auto", .switch .auto), ("explicit", .switch .explicit),
    ("map", .switch .map), ("width", .setting .width), ("start", .setting .start),
    ("rows", .setting .rows), ("config", .setting .settings), ("help", .inform .help),
    ("version", .inform .version)].lookup name

/-- A number of 64 bits, perhaps with a plus sign in front. -/
def number? (text : List Char) : Option Nat :=
  let digits := match text with
    | '+' :: digits => digits
    | digits => digits
  if digits ≠ [] ∧ digits.all Char.isDigit then
    some (digits.foldl (fun n c => 10 * n + (c.toNat - '0'.toNat)) 0) |>.filter (· ≤ maxSize)
  else none

/-- A path, which is not empty. -/
def path? (text : List Char) : Option String :=
  if text.isEmpty then none else some (String.ofList text)

/-- The arguments with the value of a setting. -/
def assign? (arguments : Arguments) (setting : Setting) (value : List Char) : Option Arguments :=
  match setting with
  | .width => (number? value).map fun n => { arguments with width := n }
  | .start => (number? value).map fun n => { arguments with start := some n }
  | .rows => (number? value).map fun n => { arguments with rows := some n }
  | .settings => (path? value).map fun p => { arguments with settings := some p }

namespace Progress

/-- A switch may be given once. -/
def turnOn? (progress : Progress) (switch : Switch) : Option Progress :=
  if progress.switches.contains switch then none
  else
    some
      { progress with
        switches := switch :: progress.switches
        arguments :=
          match switch with
          | .rtl => { progress.arguments with rtl := true }
          | .auto => { progress.arguments with auto := true }
          | .explicit => { progress.arguments with explicit := true }
          | .map => { progress.arguments with map := true } }

/-- A setting may be given once. -/
def assign? (progress : Progress) (setting : Setting) (value : List Char) : Option Progress :=
  if progress.settings.contains setting then none
  else (Invocation.assign? progress.arguments setting value).map fun arguments =>
    { progress with settings := setting :: progress.settings, arguments }

/-- One path may be given. -/
def name? (progress : Progress) (text : List Char) : Option Progress :=
  if progress.arguments.path.isSome then none
  else (path? text).map fun path =>
    { progress with arguments := { progress.arguments with path := some path } }

end Progress

/-- The rest of the arguments, none of which is an option. -/
def ofPaths (progress : Progress) : List String → Invocation
  | [] => .layout progress.arguments
  | text :: rest =>
    match progress.name? text.toList with
    | some progress => ofPaths progress rest
    | none => .misuse

def ofRest (progress : Progress) : List String → Invocation
  | [] => .layout progress.arguments
  | text :: rest =>
    match text.toList with
    | ['-', '-'] => ofPaths progress rest
    | '-' :: '-' :: long =>
      let (name, value) := long.span (· ≠ '=')
      match option? (String.ofList name), value with
      | none, _ => .misuse
      | some (.inform invocation), [] => invocation
      | some (.inform _), _ => .misuse
      | some (.switch switch), [] =>
        match progress.turnOn? switch with
        | some progress => ofRest progress rest
        | none => .misuse
      | some (.switch _), _ => .misuse
      | some (.setting setting), _ :: value =>
        match progress.assign? setting value with
        | some progress => ofRest progress rest
        | none => .misuse
      | some (.setting setting), [] =>
        match rest with
        | [] => .misuse
        | value :: rest =>
          if value.startsWith "-" ∧ value ≠ "-" then .misuse
          else
            match progress.assign? setting value.toList with
            | some progress => ofRest progress rest
            | none => .misuse
    | '-' :: 'V' :: _ => .version
    | '-' :: 'h' :: _ => .help
    | '-' :: _ :: _ => .misuse
    | path =>
      match progress.name? path with
      | some progress => ofRest progress rest
      | none => .misuse

/-- What a list of arguments asks for. -/
def ofArguments (arguments : List String) : Invocation :=
  ofRest {} arguments

end Invocation

end BidiViewport
