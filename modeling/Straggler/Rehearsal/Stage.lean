import Straggler.Rehearsal.Child
import Straggler.Wrapper

/-!
# Stages

A machine on which real commands are played: the supervisor, the process that started it, and
children that follow their courses. It answers as the system does, also about children that have
ended and are not collected yet.
-/

namespace Straggler.Rehearsal

set_option autoImplicit false

/-- The next child gets the next number. -/
structure Stage where
  workplace : Workplace
  self : Record := { pid := 2, commandLine := "supervisor" }
  parent : Record := { pid := 1, commandLine := "init" }
  children : List Child := []
  next : Pid := 3

namespace Stage

def maxPid : Nat :=
  0x7FFFFFFF

def find? (g : Stage) (pid : Pid) : Option Child :=
  g.children.find? fun c => c.pid == pid && !c.collected

def update (g : Stage) (pid : Pid) (f : Child → Child) : Stage :=
  { g with children := g.children.map fun c => if c.pid = pid then f c else c }

def records (g : Stage) : List Record :=
  g.self :: g.parent :: (g.children.filter (!·.collected)).map (·.record)

def deliver (g : Stage) (pid : Pid) (s : Signal) : Delivery × Stage :=
  if maxPid < pid then (.failed ("pid " ++ toString pid ++ " out of range"), g)
  else
    match g.find? pid with
    | none => (.noSuchProcess, g)
    | some _ => (.sent, g.update pid fun c => (c.receive s).run (.ms 0))

/-- A child that has ended still takes signals, but it is not alive. -/
def isAlive (g : Stage) (pid : Pid) : Bool :=
  (g.find? pid).any (!·.hasEnded)

def pass (g : Stage) (ms : Nat) : Stage :=
  { g with children := g.children.map (·.run (.ms ms)) }

def start (g : Stage) (command : List String) : Except Posix.SystemError Pid × Stage :=
  match g.workplace.start g.next g.self.pid command with
  | .error e => (.error e, g)
  | .ok course =>
    let c : Child := { pid := g.next, command, acts := course.acts, code := course.code }
    (.ok g.next, { g with children := g.children ++ [c], next := g.next + 1 })

def trapped : List Signal :=
  [.int, .term]

/-- Lets the child run until it ends or raises a signal. -/
def play (g : Stage) (pid : Pid) : (List Signal × Ending) × Stage :=
  let g := g.update pid (·.run .any)
  match g.find? pid with
  | none => (([], .status (.ofExit 0)), g)
  | some c =>
    let heard := c.raised.filter trapped.contains
    ((heard, .status (c.status?.getD (.ofExit 0))),
      if heard.isEmpty then g.update pid fun c => { c with collected := true } else g)

def arrivals (g : Stage) (pid : Pid) : Arrivals × Stage :=
  let ((heard, e), g) := g.play pid
  (.upTo (heard.map .signal) e, g)

def collect (g : Stage) (pid : Pid) : Bool × Stage :=
  match g.find? pid with
  | some c =>
    if c.hasEnded then (true, g.update pid fun c => { c with collected := true })
    else (false, g)
  | none => (true, g)

def kill (g : Stage) (pid : Pid) : Stage :=
  g.update pid fun c => { c.receive .kill with collected := true }

end Stage

def Stage.machine : Machine Stage where
  snapshot := fun g => (.ok (.ofRecords g.records), g)
  send := fun pid s g => g.deliver pid s
  isAlive := fun pid g => (g.isAlive pid, g)
  sleep := fun ms g => ((), g.pass ms)

def Stage.host (self parent : Pid) : Host Stage where
  toMachine := Stage.machine
  self := self
  parent := parent
  spawn := fun command g => g.start command
  arrivals := fun pid g => g.arrivals pid
  hasExited := fun pid g => g.collect pid
  waitFor := fun pid ms g => (g.pass ms).collect pid
  forceKill := fun pid g => ((), g.kill pid)

end Straggler.Rehearsal
