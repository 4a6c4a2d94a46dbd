import Straggler.Onlooker
import Straggler.Session

/-!
# The program

Reads what a session depends on, the environment, the configuration files and the process table,
and writes what the session answers. From here processes can be looked at, and nothing else.
-/

namespace Straggler.Main

set_option autoImplicit false

def contentOf (path : String) : IO (Option ByteArray) := do
  try
    return some (← IO.FS.readBinFile path)
  catch _ =>
    return none

def textOf (path : String) : IO String := do
  return ((← contentOf path).bind String.fromUTF8?).getD ""

/-- The entry of one process, unless the process has gone in the meantime. -/
def entryOf (pid : Pid) : IO (Option Posix.Entry) := do
  let directory := "/proc/" ++ toString pid ++ "/"
  let status ← textOf (directory ++ "stat")
  if status.isEmpty then return none
  else return some { pid, arguments := ← textOf (directory ++ "cmdline"), status }

def readEntries : IO (List Posix.Entry) := do
  let names ← (← IO.FS.realPath "/proc").readDir
  (names.toList.filterMap (·.fileName.toNat?)).filterMapM entryOf

def readFiles (paths : List String) : IO Files := do
  let found ← paths.filterMapM fun path => do
    return (← contentOf path).map fun content => (path, content)
  return fun path =>
    match found.lookup path with
    | some content => .ok content
    | none => .error .noSuchFile

def readSurroundings (arguments : List String) : IO Surroundings := do
  let home ← IO.getEnv "HOME"
  let configHome ← IO.getEnv "XDG_CONFIG_HOME"
  let bare : Surroundings := { files := fun _ => .error .noSuchFile, home, configHome }
  let explicit := match Request.ofArguments arguments with
    | .run o => o.config
    | _ => none
  return { bare with files := ← readFiles (Config.candidates bare explicit) }

def session (arguments : List String) : IO UInt32 := do
  let status := (← textOf "/proc/self/stat").toList
  let self := (String.ofList (Posix.firstWord status)).toNat?.getD 0
  let parent := (Posix.parentOf? status).getD 0
  let host := Onlooker.host self parent (← readEntries)
  let (transcript, _) := Session.respond host (← readSurroundings arguments) arguments ()
  IO.print transcript.out
  IO.eprint transcript.err
  return transcript.code.toUInt32

end Straggler.Main

def main (arguments : List String) : IO UInt32 :=
  Straggler.Main.session arguments
