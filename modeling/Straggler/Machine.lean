import Straggler.Error
import Straggler.Process
import Straggler.Signal

/-!
# Machines

What a cascade has to do with: a process table that can be read, processes that can be signaled
and probed, and a clock. A machine answers from a state of its own and may change it at every
call, so its answers may depend on everything that happened before.
-/

namespace Straggler

set_option autoImplicit false

inductive Delivery
  | sent
  | noSuchProcess
  | failed (reason : String)
  deriving DecidableEq, Repr

structure Machine (σ : Type) where
  snapshot : StateM σ (Except Error Snapshot)
  send : Pid → Signal → StateM σ Delivery
  isAlive : Pid → StateM σ Bool
  /-- Lets so many milliseconds pass. -/
  sleep : Nat → StateM σ Unit

inductive Call
  | snapshot (answer : Except Error Snapshot)
  | send (pid : Pid) (signal : Signal) (delivery : Delivery)
  | probe (pid : Pid) (alive : Bool)
  | sleep (ms : Nat)

/-- The same machine with a record of the calls made to it, latest first. -/
def Machine.recorded {σ : Type} (m : Machine σ) : Machine (σ × List Call) where
  snapshot := fun (s, calls) =>
    let (answer, s) := m.snapshot s
    (answer, s, .snapshot answer :: calls)
  send := fun pid signal (s, calls) =>
    let (delivery, s) := m.send pid signal s
    (delivery, s, .send pid signal delivery :: calls)
  isAlive := fun pid (s, calls) =>
    let (alive, s) := m.isAlive pid s
    (alive, s, .probe pid alive :: calls)
  sleep := fun ms (s, calls) =>
    let (_, s) := m.sleep ms s
    ((), s, .sleep ms :: calls)

end Straggler
