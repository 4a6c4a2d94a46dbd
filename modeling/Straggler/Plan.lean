import Straggler.Process

/-!
# Protected processes and plans

Some processes are never to be signaled, whatever they match. A plan holds the processes of one
category that are to be escalated; it is built by leaving the protected ones out.
-/

namespace Straggler

set_option autoImplicit false

structure Protected where
  pids : List Pid := []
  deriving DecidableEq, Repr

namespace Protected

def insert (p : Protected) (pid : Pid) : Protected :=
  { pids := pid :: p.pids }

def contains (p : Protected) (pid : Pid) : Bool :=
  p.pids.contains pid

def insertAll (p : Protected) (pids : List Pid) : Protected :=
  pids.foldl insert p

/-- A process and the one that launched it. The parent is often a shell whose own command line
carries the whole command. -/
def ofCaller (self parent : Pid) : Protected :=
  (({} : Protected).insert self).insert parent

end Protected

def exclude (records : List Record) (p : Protected) : List Record :=
  records.filter fun r => !p.contains r.pid

/-- The records of a category that are to be escalated, and how many were left out. -/
structure Plan where
  category : String
  records : List Record
  skipped : Nat
  deriving DecidableEq, Repr

def Plan.build (category : String) (found : List Record) (p : Protected) : Plan where
  category := category
  records := exclude found p
  skipped := found.length - (exclude found p).length

end Straggler
