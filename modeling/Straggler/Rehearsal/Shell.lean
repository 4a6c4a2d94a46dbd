import Straggler.Process
import Straggler.Rehearsal.Course

/-!
# Shell scripts

The small part of the shell's language in which supervised commands are written: simple commands
joined by `;`, `&&` and `||`, with quotes, parameters and redirections. A script becomes the
course of the commands in it.
-/

namespace Straggler.Rehearsal.Shell

set_option autoImplicit false

/-- A part of a word. What stands in quotes is never split. -/
inductive Piece
  | text (value : List Char) (quoted : Bool)
  | parameter (name : List Char) (quoted : Bool)
  deriving DecidableEq, Repr

inductive Token
  | word (pieces : List Piece)
  | separator
  | newline
  | ifOk
  | ifFailed
  | toStream (source target : Stream)
  | toFile (source : Stream)
  deriving DecidableEq, Repr

def isNameStart (c : Char) : Bool :=
  c.isAlpha || c = '_'

def isNameChar (c : Char) : Bool :=
  c.isAlphanum || c = '_'

def isSpecial (c : Char) : Bool :=
  "?$#*@!-".contains c || c.isDigit

def readParameter (quoted : Bool) (cs : List Char) : Piece × List Char :=
  match cs with
  | '\x7b' :: rest =>
    (.parameter (rest.takeWhile (· != '\x7d')) quoted, (rest.dropWhile (· != '\x7d')).drop 1)
  | c :: rest =>
    if isSpecial c then (.parameter [c] quoted, rest)
    else if isNameStart c then
      (.parameter (cs.takeWhile isNameChar) quoted, cs.dropWhile isNameChar)
    else (.text ['$'] quoted, cs)
  | [] => (.text ['$'] quoted, [])

def endsWord (c : Char) : Bool :=
  " \t\n;&|<>()".contains c

/-- Reads up to the end of a word, or fails on a quote that is not closed. Each step takes at
least one character, so the length of the text is fuel enough. -/
def readWord : Nat → (inQuotes : Bool) → List Char → Option (List Piece × List Char)
  | 0, _, _ => none
  | _ + 1, false, [] => some ([], [])
  | _ + 1, true, [] => none
  | fuel + 1, true, c :: cs =>
    if c = '"' then readWord fuel false cs
    else if c = '$' then
      let (piece, rest) := readParameter true cs
      (readWord fuel true rest).map fun (ps, rest) => (piece :: ps, rest)
    else
      match c, cs with
      | '\\', d :: ds =>
        let kept := if "$\"\\".contains d then [d] else ['\\', d]
        (readWord fuel true ds).map fun (ps, rest) => (.text kept true :: ps, rest)
      | _, _ => (readWord fuel true cs).map fun (ps, rest) => (.text [c] true :: ps, rest)
  | fuel + 1, false, c :: cs =>
    if endsWord c then some ([], c :: cs)
    else if c = '"' then (readWord fuel true cs).map fun (ps, rest) => (.text [] true :: ps, rest)
    else if c = '\'' then
      match cs.dropWhile (· != '\'') with
      | [] => none
      | _ :: after =>
        (readWord fuel false after).map fun (ps, rest) =>
          (.text (cs.takeWhile (· != '\'')) true :: ps, rest)
    else if c = '$' then
      let (piece, rest) := readParameter false cs
      (readWord fuel false rest).map fun (ps, rest) => (piece :: ps, rest)
    else
      match c, cs with
      | '\\', d :: ds => (readWord fuel false ds).map fun (ps, rest) => (.text [d] true :: ps, rest)
      | _, _ => (readWord fuel false cs).map fun (ps, rest) => (.text [c] false :: ps, rest)

def readRedirection (source : Stream) (cs : List Char) : Option (Token × List Char) :=
  match cs with
  | '&' :: '1' :: rest => some (.toStream source .out, rest)
  | '&' :: '2' :: rest => some (.toStream source .err, rest)
  | _ =>
    let target := cs.dropWhile (· = ' ')
    let swallowing := "/dev/null".toList
    if swallowing.isPrefixOf target then some (.toFile source, target.drop swallowing.length)
    else none

def tokens : Nat → List Char → Option (List Token)
  | 0, _ => none
  | _ + 1, [] => some []
  | fuel + 1, c :: cs =>
    if c = ' ' || c = '\t' then tokens fuel cs
    else if c = '\n' then (tokens fuel cs).map (.newline :: ·)
    else if c = ';' then (tokens fuel cs).map (.separator :: ·)
    else if c = '#' then tokens fuel (cs.dropWhile (· != '\n'))
    else
      match c, cs with
      | '&', '&' :: rest => (tokens fuel rest).map (.ifOk :: ·)
      | '|', '|' :: rest => (tokens fuel rest).map (.ifFailed :: ·)
      | '>', rest => do
        let (token, rest) ← readRedirection .out rest
        return token :: (← tokens fuel rest)
      | '1', '>' :: rest => do
        let (token, rest) ← readRedirection .out rest
        return token :: (← tokens fuel rest)
      | '2', '>' :: rest => do
        let (token, rest) ← readRedirection .err rest
        return token :: (← tokens fuel rest)
      | _, _ =>
        if endsWord c then none
        else do
          let (pieces, rest) ← readWord (cs.length + 2) false (c :: cs)
          return .word pieces :: (← tokens fuel rest)

/-- When a command is run, by how the one before it ended. -/
inductive Link
  | always
  | ifOk
  | ifFailed
  deriving DecidableEq, Repr

def Link.allows (l : Link) (status : Nat) : Bool :=
  match l with
  | always => true
  | ifOk => status = 0
  | ifFailed => status != 0

structure Command where
  link : Link := .always
  line : Nat := 1
  words : List (List Piece) := []
  outlets : Outlets := {}
  deriving DecidableEq, Repr

def Command.isEmpty (c : Command) : Bool :=
  c.words.isEmpty

def commands (current : Command) : List Token → List Command
  | [] => if current.isEmpty then [] else [current]
  | .word pieces :: rest =>
    commands { current with words := current.words ++ [pieces] } rest
  | .toStream source target :: rest =>
    commands { current with outlets := current.outlets.set source (current.outlets.of target) } rest
  | .toFile source :: rest =>
    commands { current with outlets := current.outlets.set source none } rest
  | .separator :: rest => current :: commands { line := current.line } rest
  | .newline :: rest =>
    if current.isEmpty then commands { current with line := current.line + 1 } rest
    else current :: commands { line := current.line + 1 } rest
  | .ifOk :: rest => current :: commands { link := .ifOk, line := current.line } rest
  | .ifFailed :: rest => current :: commands { link := .ifFailed, line := current.line } rest

/-- The commands of a script, unless it is beyond this part of the language. -/
def read (script : String) : Option (List Command) :=
  let cs := script.toList
  (tokens (cs.length + 1) cs).map (commands {})

/-- What a running shell knows. Its name comes first among the arguments. -/
structure Env where
  self : Pid
  parent : Pid
  arguments : List String
  assigned : List (String × String) := []
  status : Nat := 0

namespace Env

def lookup (e : Env) (name : String) : String :=
  match name with
  | "$" => toString e.self
  | "PPID" => toString e.parent
  | "?" => toString e.status
  | "#" => toString (e.arguments.length - 1)
  | "@" => " ".intercalate (e.arguments.drop 1)
  | "*" => " ".intercalate (e.arguments.drop 1)
  | _ =>
    match name.toNat? with
    | some n => e.arguments.getD n ""
    | none => (e.assigned.lookup name).getD ""

def complaint (e : Env) (line : Nat) (text : String) : String :=
  e.arguments.headD "sh" ++ ": " ++ toString line ++ ": " ++ text ++ "\n"

end Env

/-- The fields that are complete, and the one being written, if there is one. -/
structure Fields where
  done : List String := []
  current : Option String := none

namespace Fields

def add (f : Fields) (text : String) : Fields :=
  { f with current := some (f.current.getD "" ++ text) }

def finish (f : Fields) : List String :=
  f.done ++ f.current.toList

def cut (f : Fields) : Fields :=
  { done := f.finish }

/-- Adds the value of a parameter, which is cut at its blanks. -/
def addSplit (f : Fields) (value : List Char) : Fields :=
  value.foldl (fun f c =>
    if c = ' ' || c = '\t' || c = '\n' then f.cut else f.add (String.singleton c)) f

end Fields

def expandPiece (e : Env) (f : Fields) : Piece → Fields
  | .text value _ => f.add (.ofList value)
  | .parameter ['@'] true =>
    match e.arguments.drop 1 with
    | [] => f
    | a :: as => as.foldl (fun f a => f.cut.add a) (f.add a)
  | .parameter name true => f.add (e.lookup (.ofList name))
  | .parameter name false => f.addSplit (e.lookup (.ofList name)).toList

def expand (e : Env) (words : List (List Piece)) : List String :=
  words.flatMap fun word => (word.foldl (expandPiece e) {}).finish

def assignment? (e : Env) (word : List Piece) : Option (String × String) :=
  let start := word.takeWhile fun p => match p with
    | .text _ quoted => !quoted
    | .parameter _ _ => false
  let cs := start.flatMap fun p => match p with
    | .text value _ => value
    | .parameter _ _ => []
  let name := cs.takeWhile isNameChar
  match name, cs.dropWhile isNameChar with
  | c :: _, '=' :: _ =>
    if isNameStart c then
      let value := String.join (word.foldl (fun f p => (expandPiece e f p)) {}).finish
      some (.ofList name, .ofList (value.toList.drop (name.length + 1)))
    else none
  | _, _ => none

/-- What a command leaves behind. A course that ends the shell is its last. -/
structure Step where
  acts : List Act := []
  status : Nat := 0
  ends : Bool := false
  env : Env

def Step.ofCourse (e : Env) (c : Course) : Step where
  acts := c.acts
  status := c.code
  env := e

/-- The signal of a number or of a name without its first three letters. Zero is for asking. -/
def signalOf (text : String) : Option (Option Signal) :=
  match text.toNat? with
  | some 0 => some none
  | some n => (Signal.ofNumber? n).map some
  | none => (Signal.ofName? ("SIG" ++ text.toUpper)).map some

/-- Sends a signal to the shell itself or to its parent; others are not known here. -/
def killOne (e : Env) (line : Nat) (s : Option Signal) (target : String) : Course :=
  match target.toNat? with
  | none => .complaining (e.complaint line ("kill: Illegal number: " ++ target)) 2
  | some pid =>
    if pid = e.self then { acts := (s.map Act.signalSelf).toList, code := 0 }
    else if pid = e.parent then { acts := (s.map Act.signalParent).toList, code := 0 }
    else .complaining (e.complaint line "kill: No such process\n") 1

def killAll (e : Env) (line : Nat) (s : Option Signal) (targets : List String) : Course :=
  let courses := targets.map (killOne e line s)
  { acts := courses.flatMap (·.acts), code := (courses.map (·.code)).foldl max 0 }

def kill (e : Env) (line : Nat) (arguments : List String) : Course :=
  match arguments with
  | "-s" :: name :: targets =>
    match signalOf name with
    | some s => killAll e line s targets
    | none =>
      .complaining (e.complaint line ("kill: invalid signal number or name: " ++ name)) 2
  | first :: targets =>
    if first.startsWith "-" then
      match signalOf (first.drop 1).toString with
      | some s => killAll e line s targets
      | none => .complaining (e.complaint line ("kill: Illegal option " ++ first)) 2
    else killAll e line (some .term) arguments
  | [] => .complaining (e.complaint line "kill: Usage: kill [-s sigspec] pid...") 2

/-- Only the signals that are to be ignored can be named. -/
def trap (e : Env) (line : Nat) (arguments : List String) : Course :=
  match arguments with
  | "" :: names =>
    match names.mapM signalOf with
    | some signals => { acts := (signals.filterMap id).map .ignore, code := 0 }
    | none => .complaining (e.complaint line "trap: bad trap") 1
  | _ => .ofCode 0

def unescape : List Char → List Char
  | '\\' :: 'n' :: cs => '\n' :: unescape cs
  | '\\' :: 't' :: cs => '\t' :: unescape cs
  | '\\' :: '\\' :: cs => '\\' :: unescape cs
  | c :: cs => c :: unescape cs
  | [] => []

def echo (arguments : List String) : Course :=
  match arguments with
  | "-n" :: rest => .printing (.ofList (unescape (" ".intercalate rest).toList))
  | _ => .printing (.ofList (unescape (" ".intercalate arguments).toList) ++ "\n")

abbrev Others :=
  List String → Course

def exitWith (e : Env) (line : Nat) (arguments : List String) : Step :=
  match arguments with
  | [] => { status := e.status, ends := true, env := e }
  | text :: _ =>
    match text.toNat? with
    | some code => { status := code, ends := true, env := e }
    | none =>
      { acts := [.write .err (e.complaint line ("exit: Illegal number: " ++ text))]
        status := 2
        ends := true
        env := e }

def runFields (others : Others) (e : Env) (line : Nat) (fields : List String) : Step :=
  match fields with
  | [] => { status := e.status, env := e }
  | ":" :: _ => .ofCourse e (.ofCode 0)
  | "true" :: _ => .ofCourse e (.ofCode 0)
  | "false" :: _ => .ofCourse e (.ofCode 1)
  | "echo" :: arguments => .ofCourse e (echo arguments)
  | "kill" :: arguments => .ofCourse e (kill e line arguments)
  | "trap" :: arguments => .ofCourse e (trap e line arguments)
  | "exit" :: arguments => exitWith e line arguments
  | "exec" :: command =>
    if command.isEmpty then .ofCourse e (.ofCode 0)
    else
      let course := others command
      { acts := .become command :: course.acts, status := course.code, ends := true, env := e }
  | command => .ofCourse e (others command)

def runCommand (others : Others) (e : Env) (c : Command) : Step :=
  match c.words.mapM (assignment? e) with
  | some assigned => { env := { e with assigned := assigned.reverse ++ e.assigned } }
  | none =>
    let step := runFields others e c.line (expand e c.words)
    { step with acts := step.acts.filterMap (·.through c.outlets) }

def run (others : Others) (e : Env) : List Command → Course
  | [] => .ofCode e.status
  | c :: cs =>
    if c.link.allows e.status then
      let step := runCommand others e c
      if step.ends then { acts := step.acts, code := step.status }
      else
        let rest := run others { step.env with status := step.status } cs
        { rest with acts := step.acts ++ rest.acts }
    else run others e cs

/-- The course of a script. One that cannot be read ends with the code for that. -/
def course (others : Others) (e : Env) (script : String) : Course :=
  match read script with
  | some commands => run others e commands
  | none => .complaining (e.complaint 1 "Syntax error") 2

end Straggler.Rehearsal.Shell
