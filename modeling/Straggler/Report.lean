import Straggler.Escalation

/-!
# Reports

What a cascade found and did, category by category, and what a closing audit found left. The
status text has one line for each fact.
-/

namespace Straggler

set_option autoImplicit false

/-- Protected matches are counted, not listed. There is no termination in a dry run. -/
structure CategoryReport where
  category : String
  pattern : String
  discovered : List Record
  protectedCount : Nat
  termination : Option TerminationReport
  deriving DecidableEq, Repr

structure CascadeReport where
  categories : List CategoryReport
  deriving DecidableEq, Repr

namespace CascadeReport

def terminations (r : CascadeReport) : List TerminationReport :=
  r.categories.filterMap (·.termination)

def targetedPids (r : CascadeReport) : List Pid :=
  r.terminations.flatMap fun t => t.pids.map (·.pid)

def failures (r : CascadeReport) : Nat :=
  (r.terminations.flatMap (·.failures)).length

end CascadeReport

structure Survivor where
  category : String
  record : Record
  deriving DecidableEq, Repr

/-- An audit that could not be made says why. -/
structure AuditReport where
  survivors : List Survivor := []
  error : Option String := none
  deriving DecidableEq, Repr

def AuditReport.isClean (r : AuditReport) : Bool :=
  r.error.isNone && r.survivors.isEmpty

def statusLine (parts : List String) : String :=
  String.join parts ++ "\n"

def Record.status (tag : String) (r : Record) : String :=
  statusLine ["[", tag, "] discovered pid ", toString r.pid, ": ", r.commandLine]

def Outcome.status (killSignal : String) : Outcome → String
  | terminated => "force-killed (" ++ killSignal ++ ")"
  | alreadyGone => "already gone"
  | signalFailed reason => "could not be signaled: " ++ reason

def PidReport.status (tag graceSignal killSignal : String) (r : PidReport) : String :=
  (if r.gracefulSent then
    statusLine ["[", tag, "] pid ", toString r.pid, " signaled gracefully (", graceSignal, ")"]
  else "")
  ++ statusLine
    (["[", tag, "] pid ", toString r.pid, " "] ++ [r.outcome.status killSignal])

def CategoryReport.status (r : CategoryReport) : String :=
  if r.discovered.isEmpty then statusLine ["[", r.category, "] no matching processes"]
  else
    String.join (r.discovered.map (·.status r.category))
    ++ (if r.protectedCount = 0 then ""
      else
        statusLine
          ["[", r.category, "] skipped ", toString r.protectedCount, " protected pid(s)"])
    ++ match r.termination with
      | none => statusLine ["[", r.category, "] dry run, no signals sent"]
      | some t => String.join (t.pids.map (·.status r.category t.graceSignal t.killSignal))

def CascadeReport.status (r : CascadeReport) : String :=
  String.join (r.categories.map (·.status))

def Survivor.status (s : Survivor) : String :=
  statusLine ["  [", s.category, "] pid ", toString s.record.pid, ": ", s.record.commandLine]

def AuditReport.status (r : AuditReport) : String :=
  statusLine ["cleanup completed"]
  ++ match r.error with
    | some reason => statusLine ["audit unavailable: ", reason]
    | none =>
      if r.survivors.isEmpty then statusLine ["no processes still matching known patterns"]
      else
        statusLine ["processes still matching known patterns:"]
        ++ String.join (r.survivors.map (·.status))

end Straggler
