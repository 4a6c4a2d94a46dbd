import Straggler.CommandLine
import Straggler.Config.Search
import Straggler.Pattern.Size
import Straggler.Report.Json
import Straggler.Wrapper

/-!
# Sessions

One run of the program on some host: what it writes and the code it exits with. Without a command
it cleans up once and reports on standard output. With one, standard output belongs to the
command, and what there is to report goes to standard error.
-/

namespace Straggler

set_option autoImplicit false

structure Transcript where
  code : Nat := 0
  out : String := ""
  err : String := ""
  deriving DecidableEq, Repr

namespace Transcript

def maxCode : Nat :=
  255

def misuseCode : Nat :=
  2

def abortCode : Nat :=
  1

def misuse : Transcript where
  code := misuseCode
  err := "error: unexpected or missing argument\n\n" ++ usage
    ++ "\nFor more information, try '--help'.\n"

def aborted (e : Error) : Transcript where
  code := abortCode
  err := "Error: cleanup aborted\n\nCaused by:\n    " ++ e.message ++ "\n"

def ofReports (json : Bool) (cascade : CascadeReport) (audit : AuditReport) : Transcript where
  out :=
    if json then
      (Json.object [("cascade", cascade.toJson), ("audit", audit.toJson)]).sorted.pretty ++ "\n"
    else cascade.status ++ audit.status

def reported (json : Bool) (cascade : CascadeReport) : String :=
  if json then cascade.toJson.pretty ++ "\n" else cascade.status ++ "cleanup completed\n"

def ofWrap (json : Bool) (w : WrapOutcome) : Transcript where
  code := min w.exitCode maxCode
  err := w.cascade.elim "" (reported json)

def ofFailure (e : Error) : Transcript :=
  if e.isFatal then aborted e
  else { code := e.spawnCode, err := "test-reaper: " ++ e.message ++ "\n" }

end Transcript

namespace Session

variable {σ : Type} [Pattern.Engine]

def run (h : Host σ) (s : Surroundings) (o : Options) : StateM σ Transcript := do
  let sv : Supervisor :=
    { settings := Settings.effective s o.config o.graceMs, dryRun := o.dryRun }
  if o.command.isEmpty then
    match ← (sv.run h.toMachine (.ofCaller h.self h.parent)).run with
    | .ok (cascade, audit) => return .ofReports o.json cascade audit
    | .error e => return .aborted e
  else
    match ← (sv.wrap h o.command o.sweepOnExit).run with
    | .ok outcome => return .ofWrap o.json outcome
    | .error e => return .ofFailure e

def respond (h : Host σ) (s : Surroundings) (arguments : List String) : StateM σ Transcript :=
  match Request.ofArguments arguments with
  | .help => return { out := helpText }
  | .misuse => return .misuse
  | .run o => run h s o

end Session

end Straggler
