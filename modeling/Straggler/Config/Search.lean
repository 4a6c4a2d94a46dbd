import Straggler.Config

/-!
# Finding the configuration

A path that is given is the only one looked at. Otherwise there are three places, and the first
file among them that can be read and makes sense is used; files that are missing or broken never
hide a later one.
-/

namespace Straggler

set_option autoImplicit false

abbrev Files :=
  String → Except Posix.SystemError ByteArray

/-- Where a program was started. An empty or relative directory for configurations counts as none.
-/
structure Surroundings where
  files : Files
  home : Option String
  configHome : Option String

namespace Config

def notText : Posix.SystemError :=
  .described .other "stream did not contain valid UTF-8"

def ofFile (files : Files) (path : String) : Except Error Config :=
  match files path with
  | .error cause => .error (.config (.unreadable path cause))
  | .ok bytes =>
    match String.fromUTF8? bytes with
    | none => .error (.config (.unreadable path notText))
    | some text => parse text

def configDirectory (s : Surroundings) : Option String :=
  match s.configHome with
  | some dir => if dir.startsWith "/" then some dir else s.home.map (· ++ "/.config")
  | none => s.home.map (· ++ "/.config")

def searchPaths (s : Surroundings) : List String :=
  [(configDirectory s).map (· ++ "/test-reaper/config.toml"),
    s.home.map (· ++ "/.test-reaper.toml"),
    some "test-reaper.toml"].filterMap id

def firstOf (files : Files) : List String → Config
  | [] => {}
  | path :: paths =>
    match ofFile files path with
    | .ok config => config
    | .error _ => firstOf files paths

def candidates (s : Surroundings) (explicit : Option String) : List String :=
  explicit.elim (searchPaths s) fun path => [path]

def load (s : Surroundings) (explicit : Option String) : Config :=
  firstOf s.files (candidates s explicit)

end Config

/-- The settings that a run uses: those of the configuration, or all the built-in ones if it is
not valid, with the window of grace replaced if one is given. -/
def Settings.effective [Pattern.Engine] (s : Surroundings) (explicit : Option String)
    (graceMs : Option Nat) : Settings :=
  let settings := ((Config.load s explicit).settings).toOption.getD .builtin
  { settings with
    policy := { settings.policy with
      graceWindow := graceMs.getD settings.policy.graceWindow } }

end Straggler
