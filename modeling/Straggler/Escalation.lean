import Straggler.Machine
import Straggler.Plan

/-!
# Escalation

How the processes of a plan are ended: a graceful signal to each of them, one window of grace for
all, and then a forceful signal to each that is still alive. Nothing that goes wrong with one
process keeps the others from their turn; what happened to each is in the report.
-/

namespace Straggler

set_option autoImplicit false

/-- The window is in milliseconds. -/
structure Policy where
  graceSignal : Signal := .term
  graceWindow : Nat := 1000
  killSignal : Signal := .kill
  deriving DecidableEq, Repr

inductive Outcome
  | terminated
  | alreadyGone
  | signalFailed (reason : String)
  deriving DecidableEq, Repr

def Outcome.isFailure : Outcome → Bool
  | signalFailed _ => true
  | _ => false

structure PidReport where
  pid : Pid
  commandLine : String
  gracefulSent : Bool
  forceSent : Bool
  outcome : Outcome
  deriving DecidableEq, Repr

/-- The signals by their names, and one entry for each process in the order of the plan. -/
structure TerminationReport where
  graceSignal : String
  killSignal : String
  pids : List PidReport
  deriving DecidableEq, Repr

namespace TerminationReport

def count (r : TerminationReport) (outcome : Outcome) : Nat :=
  r.pids.countP (·.outcome == outcome)

def failures (r : TerminationReport) : List PidReport :=
  r.pids.filter (·.outcome.isFailure)

end TerminationReport

def PidReport.of (r : Record) (graceful : Delivery) (forceSent : Bool) (outcome : Outcome) :
    PidReport where
  pid := r.pid
  commandLine := r.commandLine
  gracefulSent := graceful = .sent
  forceSent := forceSent
  outcome := outcome

/-- The last phase for one process. One that was gone before its graceful signal is not looked at
again. -/
def settle {σ : Type} (m : Machine σ) (policy : Policy) (r : Record) (graceful : Delivery) :
    StateM σ PidReport := do
  if graceful = .noSuchProcess then
    return .of r graceful false .alreadyGone
  if ← m.isAlive r.pid then
    match ← m.send r.pid policy.killSignal with
    | .sent => return .of r graceful true .terminated
    | .noSuchProcess => return .of r graceful false .alreadyGone
    | .failed reason => return .of r graceful false (.signalFailed reason)
  else
    return .of r graceful false .alreadyGone

/-- Time passes only if some graceful signal arrived and the window is not empty. -/
def terminate {σ : Type} (m : Machine σ) (policy : Policy) (plan : Plan) :
    StateM σ TerminationReport := do
  let warned ← plan.records.mapM fun r => do
    return (r, ← m.send r.pid policy.graceSignal)
  if warned.any (·.2 = .sent) && policy.graceWindow != 0 then
    m.sleep policy.graceWindow
  let pids ← warned.mapM fun (r, graceful) => settle m policy r graceful
  return { graceSignal := policy.graceSignal.name, killSignal := policy.killSignal.name, pids }

end Straggler
