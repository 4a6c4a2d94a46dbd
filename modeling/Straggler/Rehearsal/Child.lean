import Straggler.Posix.ProcessTable
import Straggler.Posix.WaitStatus
import Straggler.Rehearsal.Program

/-!
# Children

A process that was started with a command and follows its course, until it ends by itself or a
signal ends it. It then stays in the process table until its parent collects it.
-/

namespace Straggler.Rehearsal

set_option autoImplicit false

inductive Phase
  | running
  | stopped
  | ended (status : Posix.WaitStatus)
  deriving DecidableEq, Repr

/-- Signals that arrive while a process is stopped are held until it goes on. What it has written
and raised so far stands in order. -/
structure Child where
  pid : Pid
  command : List String
  acts : List Act
  code : Nat
  phase : Phase := .running
  collected : Bool := false
  ignored : List Signal := []
  held : List Signal := []
  written : List (Stream × String) := []
  raised : List Signal := []

inductive Disposition
  | dies
  | stops
  | goesOn
  | nothing
  deriving DecidableEq, Repr

/-- The stops that a terminal asks for are for processes that have one. -/
def Disposition.of : Signal → Disposition
  | .stop => stops
  | .cont => goesOn
  | .chld => nothing
  | .urg => nothing
  | .winch => nothing
  | .tstp => nothing
  | .ttin => nothing
  | .ttou => nothing
  | _ => dies

namespace Child

def status? (c : Child) : Option Posix.WaitStatus :=
  match c.phase with
  | .ended s => some s
  | _ => none

def hasEnded (c : Child) : Bool :=
  c.status?.isSome

/-- Whether a signal is let pass without effect. Two signals always have theirs. -/
def ignores (c : Child) (s : Signal) : Bool :=
  s != .kill && s != .stop && c.ignored.contains s

def take (c : Child) (s : Signal) : Child :=
  if c.ignores s then c
  else
    match Disposition.of s with
    | .dies => { c with phase := .ended (.ofSignal s.number) }
    | .stops => { c with phase := .stopped }
    | .goesOn => c
    | .nothing => c

/-- Goes on after a stop and takes what was held, one signal after the other. -/
def resume (c : Child) : Child :=
  c.held.foldl (fun c s => if c.phase = .running then c.take s else c)
    { c with phase := .running, held := [] }

def receive (c : Child) (s : Signal) : Child :=
  match c.phase with
  | .running => c.take s
  | .stopped =>
    if s = .kill then c.take s
    else if s = .cont then c.resume
    else if c.ignores s || Disposition.of s = .nothing then c
    else { c with held := c.held ++ [s] }
  | .ended _ => c

inductive Span
  | ms (n : Nat)
  | any
  deriving DecidableEq, Repr

/-- What is left of a span after a wait, if it is not shorter. -/
def Span.after (span : Span) (ms : Nat) : Option Span :=
  match span with
  | .ms n => if ms ≤ n then some (.ms (n - ms)) else none
  | .any => some .any

def follow (span : Span) (c : Child) : List Act → Child
  | [] => { c with acts := [], phase := .ended (.ofExit c.code) }
  | a :: as =>
    match a with
    | .write target text => follow span { c with written := c.written ++ [(target, text)] } as
    | .signalSelf s =>
      let c := c.take s
      if c.phase = .running then follow span c as else { c with acts := as }
    | .signalParent s =>
      let span := if span = .any then .ms 0 else span
      follow span { c with raised := c.raised ++ [s] } as
    | .ignore s => follow span { c with ignored := s :: c.ignored } as
    | .wait ms =>
      match span.after ms, span with
      | some rest, _ => follow rest c as
      | none, .ms n => { c with acts := .wait (ms - n) :: as }
      | none, .any => { c with acts := a :: as }
    | .linger => { c with acts := a :: as }
    | .become command => follow span { c with command } as

def run (span : Span) (c : Child) : Child :=
  if c.phase = .running then follow span c c.acts else c

def shortNameLimit : Nat :=
  15

/-- The name that a process keeps even when nothing else is left of it. -/
def shortName (c : Child) : List Char :=
  (baseName (c.command.headD "")).toList.take shortNameLimit

/-- How the process table shows a process. An ended one has no arguments any more. -/
def record (c : Child) : Record where
  pid := c.pid
  commandLine :=
    let arguments := if c.hasEnded then [] else c.command.map (·.toList)
    .ofList (Posix.commandText arguments c.shortName)

end Child

end Straggler.Rehearsal
