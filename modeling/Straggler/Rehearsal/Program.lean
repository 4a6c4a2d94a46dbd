import Straggler.Error
import Straggler.Posix.FileTree
import Straggler.Rehearsal.Shell

/-!
# Programs

The programs that supervised commands are made of, where they are found, and their courses. A
command that cannot be started fails with the error that the system gives for it.
-/

namespace Straggler.Rehearsal

set_option autoImplicit false

inductive Program
  | yes
  | no
  | echo
  | cat
  | sleep
  | tail
  | shell
  deriving DecidableEq, Repr

namespace Program

def all : List (String × Program) :=
  [("true", yes), ("false", no), ("echo", echo), ("cat", cat), ("sleep", sleep), ("tail", tail),
    ("sh", shell), ("dash", shell), ("bash", shell)]

end Program

/-- A place to work in: its files, the directory that relative paths start from, and the
directories that are searched for programs. -/
structure Workplace where
  files : Posix.FileTree
  cwd : Posix.Place := []
  searchPath : List String := ["/usr/local/bin", "/usr/bin", "/bin"]

namespace Workplace

open Posix

def system : FileTree :=
  let programs := ["/usr/bin/", "/bin/"].flatMap fun directory =>
    Program.all.map fun (name, _) => (directory ++ name, Node.file .empty true)
  let others := [("/etc/passwd", Node.file "root:x:0:0:root:/root:/bin/sh\n".toUTF8 false),
    ("/dev/null", Node.file .empty false), ("/tmp", Node.directory),
    ("/usr/local/bin", Node.directory)]
  (programs ++ others).foldl (fun t (path, node) => t.putAt path node) {}

def read (w : Workplace) (path : String) : Except SystemError ByteArray :=
  w.files.read w.cwd path

def executable (w : Workplace) (path : String) : Except SystemError Unit := do
  match w.files.find? (← w.files.resolve w.cwd path) with
  | some (.file _ true) => return ()
  | some _ => throw .permissionDenied
  | none => throw .noSuchFile

/-- Tries one directory after the other. Of the failures only a refusal is remembered. -/
def search (w : Workplace) (name : String) (failure : SystemError) :
    List String → Except SystemError Unit
  | [] => .error failure
  | directory :: rest =>
    match w.executable (directory ++ "/" ++ name) with
    | .ok () => .ok ()
    | .error e =>
      if e = .noSuchFile || e = .notADirectory then w.search name failure rest
      else if e = .permissionDenied then w.search name e rest
      else .error e

/-- Finds the program that a command starts. A name with a slash is a path. -/
def find (w : Workplace) (name : String) : Except SystemError Unit :=
  if name.isEmpty then .error .noSuchFile
  else if name.toList.contains '/' then w.executable name
  else if FileTree.maxName < name.utf8ByteSize then .error .nameTooLong
  else w.search name .noSuchFile w.searchPath

end Workplace

def baseName (path : String) : String :=
  .ofList ((Posix.pathParts path.toList).getLastD [])

/-- A number of seconds in decimal, in milliseconds. -/
def milliseconds? (text : List Char) : Option Nat :=
  let whole := text.takeWhile Char.isDigit
  let digits (cs : List Char) := cs.foldl (fun n c => n * 10 + (c.toNat - '0'.toNat)) 0
  match text.dropWhile Char.isDigit with
  | [] => if whole.isEmpty then none else some (digits whole * 1000)
  | '.' :: fraction =>
    if fraction.all Char.isDigit && !(whole.isEmpty && fraction.isEmpty) then
      some (digits whole * 1000 + digits ((fraction ++ ['0', '0', '0']).take 3))
    else none
  | _ => none

def duration? (text : String) : Option Nat :=
  let cs := text.toList
  match cs.getLast? with
  | some 's' => milliseconds? cs.dropLast
  | some 'm' => (milliseconds? cs.dropLast).map (· * 60)
  | some 'h' => (milliseconds? cs.dropLast).map (· * 3600)
  | some 'd' => (milliseconds? cs.dropLast).map (· * 86400)
  | _ => milliseconds? cs

def sleepCourse (arguments : List String) : Course :=
  if arguments.isEmpty then .complaining "sleep: missing operand\n" 1
  else if arguments.contains "infinity" then { acts := [.linger], code := 0 }
  else
    match arguments.mapM duration? with
    | some stretches => { acts := [.wait (stretches.foldl (· + ·) 0)], code := 0 }
    | none => .complaining "sleep: invalid time interval\n" 1

def catCourse (w : Workplace) (paths : List String) : Course :=
  let courses := paths.map fun path =>
    match w.read path with
    | .ok bytes => Course.printing ((String.fromUTF8? bytes).getD "")
    | .error e => .complaining ("cat: " ++ path ++ ": " ++ e.text ++ "\n") 1
  { acts := courses.flatMap (·.acts), code := (courses.map (·.code)).foldl max 0 }

def isEchoOption (text : String) : Bool :=
  match text.toList with
  | '-' :: c :: cs => (c :: cs).all fun c => c = 'n' || c = 'e' || c = 'E'
  | _ => false

def echoCourse (arguments : List String) : Course :=
  let options := String.join (arguments.takeWhile isEchoOption)
  let text := " ".intercalate (arguments.dropWhile isEchoOption)
  let text := if options.contains 'e' then .ofList (Shell.unescape text.toList) else text
  .printing (if options.contains 'n' then text else text ++ "\n")

/-- What the system says when a shell cannot start a command. -/
def refusal (e : Shell.Env) (command : List String) (cause : Posix.SystemError) : Course :=
  let name := command.headD ""
  if cause.kind = .notFound then
    .complaining (e.complaint 1 (name ++ ": not found")) Error.notFoundCode
  else .complaining (e.complaint 1 (name ++ ": " ++ cause.text)) Error.cannotExecuteCode

/-- The course of a program that has been found, by the whole command that starts it. Shells may
start shells, to a depth. -/
def Program.course (w : Workplace) (self parent : Pid) (depth : Nat) (p : Program)
    (command : List String) : Course :=
  let arguments := command.drop 1
  match p, depth with
  | .yes, _ => .ofCode 0
  | .no, _ => .ofCode 1
  | .echo, _ => echoCourse arguments
  | .cat, _ => catCourse w arguments
  | .sleep, _ => sleepCourse arguments
  | .tail, _ => if arguments.contains "-f" then { acts := [.linger], code := 0 } else .ofCode 0
  | .shell, 0 => .ofCode Error.cannotExecuteCode
  | .shell, depth + 1 =>
    match arguments with
    | "-c" :: script :: rest =>
      let e : Shell.Env :=
        { self, parent, arguments := if rest.isEmpty then command.take 1 else rest }
      let others (command : List String) :=
        match w.find (command.headD ""), Program.all.lookup (baseName (command.headD "")) with
        | .error cause, _ => refusal e command cause
        | .ok (), some program => program.course w self parent depth command
        | .ok (), none => .ofCode 0
      Shell.course others e script
    | _ => .ofCode 0
termination_by depth

def shellDepth : Nat :=
  8

/-- Starts a command. What cannot be written into an argument is refused before the search. -/
def Workplace.start (w : Workplace) (self parent : Pid) (command : List String) :
    Except Posix.SystemError Course := do
  if command.any (·.toList.contains '\x00') then
    throw (.described .invalidInput "nul byte found in provided data")
  let name := command.headD ""
  w.find name
  match Program.all.lookup (baseName name) with
  | some program => return program.course w self parent shellDepth command
  | none => return .ofCode 0

end Straggler.Rehearsal
