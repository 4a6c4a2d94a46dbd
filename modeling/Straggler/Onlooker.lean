import Straggler.Posix.ProcessTable
import Straggler.Wrapper

/-!
# Onlookers

A host that sees the processes there are, as they were read once, and can do nothing to them. What
a dry run reports on it is what is there; every signal fails, and no command can be started.
-/

namespace Straggler.Onlooker

set_option autoImplicit false

def cannotSignal : Delivery :=
  .failed "signals cannot be sent from here"

def cannotStart : Posix.SystemError :=
  .described .other "commands cannot be started from here"

/-- A table that does not show the onlooker itself counts as unreadable. -/
def snapshot (self : Pid) (entries : List Posix.Entry) : Except Error Snapshot :=
  let s := Snapshot.ofRecords (entries.map (·.record))
  if s.contains self then .ok s
  else
    .error (.processTable ("own pid " ++ toString self ++ " not visible ("
      ++ toString s.records.size ++ " entries read)"))

def machine (self : Pid) (entries : List Posix.Entry) : Machine Unit where
  snapshot := pure (snapshot self entries)
  send := fun _ _ => pure cannotSignal
  isAlive := fun pid => pure (entries.any fun e => e.pid == pid && e.isAlive)
  sleep := fun _ => pure ()

def host (self parent : Pid) (entries : List Posix.Entry) : Host Unit where
  toMachine := machine self entries
  self := self
  parent := parent
  spawn := fun _ => pure (.error cannotStart)
  arrivals := fun _ => pure (.upTo [] (.status (.ofExit 0)))
  hasExited := fun _ => pure true
  waitFor := fun _ _ => pure true
  forceKill := fun _ => pure ()

end Straggler.Onlooker
