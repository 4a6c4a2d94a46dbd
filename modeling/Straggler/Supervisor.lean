import Straggler.Report
import Straggler.Rule

/-!
# The supervisor

A cascade goes through the categories in their order: read the process table, find the matches,
leave the protected ones out, escalate the rest. Each category reads the table anew, so what an
earlier one ended is not found again. An audit looks once for what still matches.
-/

namespace Straggler

set_option autoImplicit false

structure Settings where
  categories : List Category
  policy : Policy
  deriving DecidableEq, Repr

/-- A dry run discovers and reports but sends no signal. -/
structure Supervisor where
  settings : Settings
  dryRun : Bool := false
  deriving DecidableEq, Repr

/-- Calls that may fail with an error after they have changed the state. -/
abbrev Attempt (σ : Type) :=
  ExceptT Error (StateM σ)

namespace Supervisor

variable {σ : Type}

/-- One category. An unreadable table fails before anything is signaled. -/
def sweep (sv : Supervisor) (m : Machine σ) (p : Protected) (c : Category) :
    Attempt σ CategoryReport := do
  let snapshot ← ExceptT.mk m.snapshot
  let plan := Plan.build c.name (c.rule.discover snapshot) p
  let termination ← if sv.dryRun then pure none
    else some <$> ExceptT.lift (terminate m sv.settings.policy plan)
  return {
    category := c.name
    pattern := c.rule.source
    discovered := plan.records
    protectedCount := plan.skipped
    termination }

def cascade (sv : Supervisor) (m : Machine σ) (p : Protected) : Attempt σ CascadeReport := do
  return { categories := ← sv.settings.categories.mapM (sv.sweep m p) }

def survivors (p : Protected) (s : Snapshot) (c : Category) : List Survivor :=
  (Plan.build c.name (c.rule.discover s) p).records.map fun r => { category := c.name, record := r }

def audit (sv : Supervisor) (m : Machine σ) (p : Protected) : Attempt σ AuditReport := do
  let snapshot ← ExceptT.mk m.snapshot
  return { survivors := sv.settings.categories.flatMap (survivors p snapshot) }

/-- A cascade and then an audit. What keeps the audit from being made becomes part of it. -/
def run (sv : Supervisor) (m : Machine σ) (p : Protected) :
    Attempt σ (CascadeReport × AuditReport) := do
  let cascade ← sv.cascade m p
  let audit ← ExceptT.lift ((sv.audit m p).run)
  match audit with
  | .ok audit => return (cascade, audit)
  | .error e => return (cascade, { error := some e.message })

end Supervisor

end Straggler
