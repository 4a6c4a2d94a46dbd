import Straggler.Rehearsal.Stage
import Straggler.Rehearsal.Table

/-!
# Scenes

A supervised command beside a scripted process table. The child and the caller may be shown among
the processes of the table, the signals that come are known beforehand, and what is handed on to
the child can be made to fail.
-/

namespace Straggler.Rehearsal

set_option autoImplicit false

/-- The child may be made to die before a certain reading of the table, which are counted from
one. A forwarding that is given replaces the real one. -/
structure Scene where
  table : Table
  stage : Stage
  child : Option Pid := none
  signals : List Signal := []
  closed : Bool := false
  childShownAs : Option String := none
  callerShownAs : Option String := none
  childDiesAt : Option Nat := none
  forwarding : Option Delivery := none
  readings : Nat := 0

namespace Scene

def child? (c : Scene) : Option Pid :=
  c.child.filter fun pid => (c.stage.find? pid).isSome

def extras (c : Scene) : List Record :=
  let shown (text : Option String) (pids : List Pid) : List Record :=
    text.elim [] fun commandLine => pids.map fun pid => { pid, commandLine }
  shown c.callerShownAs [c.stage.self.pid, c.stage.parent.pid]
    ++ shown c.childShownAs c.child?.toList

def onChild (c : Scene) (f : Stage → Pid → Stage) : Scene :=
  match c.child with
  | some pid => { c with stage := f c.stage pid }
  | none => c

def snapshot (c : Scene) : Except Error Snapshot × Scene :=
  let c := { c with readings := c.readings + 1 }
  let c := if c.childDiesAt = some c.readings
    then c.onChild fun g pid => (g.deliver pid .kill).2
    else c
  let (answer, table) := c.table.snapshot
  (answer.map fun s => .ofRecords (c.extras ++ s.records.toList), { c with table })

/-- Signals to the child are handed on; all others are for the table. -/
def send (c : Scene) (pid : Pid) (s : Signal) : Delivery × Scene :=
  if c.child = some pid then
    let noted (d : Delivery) (c : Scene) : Delivery × Scene :=
      (d, { c with table := c.table.note (.forward s d) })
    match c.forwarding with
    | some d => noted d c
    | none => noted .sent (c.onChild fun g pid => (g.deliver pid s).2)
  else
    let (d, table) := c.table.send pid s
    (d, { c with table })

def spawn (c : Scene) (command : List String) : Except Posix.SystemError Pid × Scene :=
  let (started, stage) := c.stage.start command
  (started, { c with stage, child := started.toOption })

/-- The waiting signals come before the child ends. -/
def arrivals (c : Scene) (pid : Pid) : Arrivals × Scene :=
  let notices := c.signals.map Notice.signal ++ if c.closed then [.closed] else []
  if c.signals.isEmpty then
    let ((_, e), stage) := c.stage.play pid
    (.upTo notices e, { c with stage })
  else (.upTo notices (.status (.ofExit 0)), { c with stage := c.stage.pass 0 })

end Scene

/-- The scene as a host. Its clock is that of the table. -/
def Scene.host (self parent : Pid) : Host Scene where
  snapshot := Scene.snapshot
  send := fun pid s c => c.send pid s
  isAlive := fun pid c => let (alive, table) := c.table.isAlive pid; (alive, { c with table })
  sleep := fun ms c => ((), { c with table := c.table.advance ms })
  self := self
  parent := parent
  spawn := fun command c => c.spawn command
  arrivals := fun pid c => c.arrivals pid
  hasExited := fun pid c => let (ended, stage) := c.stage.collect pid; (ended, { c with stage })
  waitFor := fun pid ms c =>
    let (ended, stage) := (c.stage.pass ms).collect pid
    (ended, { c with stage })
  forceKill := fun pid c => ((), { c with stage := c.stage.kill pid })

end Straggler.Rehearsal
