import Straggler.Json
import Straggler.Report

/-!
# Reports as JSON

Every field of a report under a name of its own. The outcome of a process stands among the other
fields of its entry, with the reason if there is one, and so does the record of a survivor.
-/

namespace Straggler

set_option autoImplicit false

def Record.fields (r : Record) : List (String × Json) :=
  [("pid", .number r.pid), ("command_line", .string r.commandLine)]

def Record.toJson (r : Record) : Json :=
  .object r.fields

def Outcome.fields : Outcome → List (String × Json)
  | terminated => [("outcome", .string "terminated")]
  | alreadyGone => [("outcome", .string "already_gone")]
  | signalFailed reason => [("outcome", .string "signal_failed"), ("reason", .string reason)]

def PidReport.toJson (r : PidReport) : Json :=
  .object
    ([("pid", .number r.pid),
      ("command_line", .string r.commandLine),
      ("graceful_sent", .bool r.gracefulSent),
      ("force_sent", .bool r.forceSent)] ++ r.outcome.fields)

def TerminationReport.toJson (r : TerminationReport) : Json :=
  .object
    [("grace_signal", .string r.graceSignal),
      ("kill_signal", .string r.killSignal),
      ("pids", .array (r.pids.map (·.toJson)))]

def CategoryReport.toJson (r : CategoryReport) : Json :=
  .object
    [("category", .string r.category),
      ("pattern", .string r.pattern),
      ("discovered", .array (r.discovered.map (·.toJson))),
      ("protected", .number r.protectedCount),
      ("termination", r.termination.elim .null (·.toJson))]

def CascadeReport.toJson (r : CascadeReport) : Json :=
  .object [("categories", .array (r.categories.map (·.toJson)))]

def Survivor.toJson (s : Survivor) : Json :=
  .object (("category", .string s.category) :: s.record.fields)

/-- An error that is not there has no field. -/
def AuditReport.toJson (r : AuditReport) : Json :=
  .object
    (("survivors", .array (r.survivors.map (·.toJson)))
      :: r.error.elim [] fun e => [("error", .string e)])

end Straggler
