import Straggler.Proofs.Escalation

/-!
# What a supervisor does

One lemma for each operation of a supervisor, with everything it can come to: its answer and the
calls it makes. `Swept` is one category, `Cascaded` all of them up to the first unreadable table,
`Audited` the closing look, `Ran` a whole run.
-/

namespace Straggler

set_option autoImplicit false

variable {σ : Type}

def Category.plan (c : Category) (p : Protected) (snapshot : Snapshot) : Plan :=
  .build c.name (c.rule.discover snapshot) p

/-- The plan of a category holds what the table shows to match it, unless it is protected. -/
theorem Category.mem_plan {c : Category} {p : Protected} {snapshot : Snapshot} {r : Record} :
    r ∈ (c.plan p snapshot).records ↔ r ∈ snapshot.records ∧
      c.rule.isMatch r.commandLine = true ∧ p.contains r.pid = false := by
  rw [plan, Plan.build, exclude, Rule.discover, List.mem_filter, List.mem_filter,
    Array.mem_toList_iff, Bool.not_eq_true', and_assoc]

theorem Category.plan_ascending (c : Category) (p : Protected) (snapshot : Snapshot) :
    (c.plan p snapshot).records.Pairwise (·.pid < ·.pid) := by
  have found : (c.rule.discover snapshot).Pairwise (·.pid < ·.pid) := snapshot.ascending.filter _
  exact found.filter _

def Category.report (c : Category) (p : Protected) (snapshot : Snapshot)
    (termination : Option TerminationReport) : CategoryReport where
  category := c.name
  pattern := c.rule.source
  discovered := (c.plan p snapshot).records
  protectedCount := (c.plan p snapshot).skipped
  termination := termination

/-- The table is read once, and what is then escalated is the plan made of it. -/
inductive Swept (sv : Supervisor) (p : Protected) (c : Category) :
    Except Error CategoryReport → List Call → Prop
  | unreadable (e : Error) : Swept sv p c (.error e) [.snapshot (.error e)]
  | dry (snapshot : Snapshot) : sv.dryRun = true →
      Swept sv p c (.ok (c.report p snapshot none)) [.snapshot (.ok snapshot)]
  | live (snapshot : Snapshot) (turns : List Turn) : sv.dryRun = false →
      turns.map (·.record) = (c.plan p snapshot).records →
      Swept sv p c (.ok (c.report p snapshot (some (.ofTurns sv.settings.policy turns))))
        (.snapshot (.ok snapshot) :: protocol sv.settings.policy turns)

def Cascaded (sv : Supervisor) (p : Protected) (answer : Except Error CascadeReport)
    (calls : List Call) : Prop :=
  ∃ reports, answer = reports.map CascadeReport.mk ∧
    UntilError (Swept sv p) sv.settings.categories reports calls

inductive Audited (sv : Supervisor) (p : Protected) : Except Error AuditReport → List Call → Prop
  | unreadable (e : Error) : Audited sv p (.error e) [.snapshot (.error e)]
  | read (snapshot : Snapshot) :
      Audited sv p
        (.ok { survivors := sv.settings.categories.flatMap (Supervisor.survivors p snapshot) })
        [.snapshot (.ok snapshot)]

def AuditReport.ofAudit : Except Error AuditReport → AuditReport
  | .ok audit => audit
  | .error e => { error := some e.message }

inductive Ran (sv : Supervisor) (p : Protected) :
    Except Error (CascadeReport × AuditReport) → List Call → Prop
  | failed (e : Error) (calls : List Call) : Cascaded sv p (.error e) calls →
      Ran sv p (.error e) calls
  | audited (cascade : CascadeReport) (audit : Except Error AuditReport) (first rest : List Call) :
      Cascaded sv p (.ok cascade) first → Audited sv p audit rest →
      Ran sv p (.ok (cascade, .ofAudit audit)) (first ++ rest)

namespace Supervisor

theorem snapshot_makes (m : Machine σ) :
    Makes (ExceptT.mk m.snapshot : Attempt σ Snapshot).run
      (ExceptT.mk m.recorded.snapshot : Attempt _ Snapshot).run
      fun answer calls => calls = [.snapshot answer] :=
  Makes.snapshot m

def escalate (sv : Supervisor) (m : Machine σ) (plan : Plan) :
    Attempt σ (Option TerminationReport) := do
  if sv.dryRun then return none
  return some (← ExceptT.lift (terminate m sv.settings.policy plan))

theorem sweep_eq (sv : Supervisor) (m : Machine σ) (p : Protected) (c : Category) :
    sv.sweep m p c = (ExceptT.mk m.snapshot >>= fun snapshot =>
      sv.escalate m (c.plan p snapshot) >>= fun termination =>
      pure (c.report p snapshot termination)) := by
  unfold sweep escalate
  congr 1
  funext snapshot
  cases sv.dryRun <;> rfl

theorem run_eq (sv : Supervisor) (m : Machine σ) (p : Protected) :
    sv.run m p = (sv.cascade m p >>= fun cascade =>
      ExceptT.lift (sv.audit m p).run >>= fun audit =>
      pure (cascade, .ofAudit audit)) := by
  unfold run
  congr 1
  funext cascade
  congr 1
  funext audit
  cases audit <;> rfl

theorem escalate_makes (sv : Supervisor) (m : Machine σ) (plan : Plan) :
    Makes (sv.escalate m plan).run (sv.escalate m.recorded plan).run fun answer calls =>
      (sv.dryRun = true ∧ answer = .ok none ∧ calls = []) ∨
      (sv.dryRun = false ∧ ∃ turns : List Turn, turns.map (·.record) = plan.records ∧
        answer = .ok (some (.ofTurns sv.settings.policy turns)) ∧
        calls = protocol sv.settings.policy turns) := by
  unfold escalate
  cases dry : sv.dryRun with
  | true =>
    refine (Makes.pureAttempt none).mono ?_
    rintro _ _ ⟨rfl, rfl⟩
    exact .inl ⟨rfl, rfl, rfl⟩
  | false =>
    have ended := Makes.lift (terminate_makes m sv.settings.policy plan)
    refine (ended.mapAttempt some).mono ?_
    rintro _ _ ⟨_, ⟨_, rfl, turns, hrecords, rfl, rfl⟩, rfl⟩
    exact .inr ⟨rfl, turns, hrecords, rfl, rfl⟩

theorem sweep_makes (sv : Supervisor) (m : Machine σ) (p : Protected) (c : Category) :
    Makes (sv.sweep m p c).run (sv.sweep m.recorded p c).run (Swept sv p c) := by
  rw [sweep_eq, sweep_eq]
  refine ((snapshot_makes m).bindAttempt _ fun snapshot =>
    (sv.escalate_makes m (c.plan p snapshot)).mapAttempt (c.report p snapshot)).mono ?_
  rintro _ _ (⟨e, rfl, rfl⟩ | ⟨snapshot, _, _, rfl, ⟨_, h, rfl⟩, rfl⟩)
  · exact .unreadable e
  · rcases h with ⟨dry, rfl, rfl⟩ | ⟨live, turns, hrecords, rfl, rfl⟩
    · exact .dry snapshot dry
    · exact .live snapshot turns live hrecords

theorem cascade_makes (sv : Supervisor) (m : Machine σ) (p : Protected) :
    Makes (sv.cascade m p).run (sv.cascade m.recorded p).run (Cascaded sv p) := by
  have swept := Makes.mapMAttempt (sv.sweep_makes m p) sv.settings.categories
  refine (swept.mapAttempt CascadeReport.mk).mono ?_
  rintro _ _ ⟨reports, h, rfl⟩
  exact ⟨reports, rfl, h⟩

theorem audit_makes (sv : Supervisor) (m : Machine σ) (p : Protected) :
    Makes (sv.audit m p).run (sv.audit m.recorded p).run (Audited sv p) := by
  unfold audit
  refine ((snapshot_makes m).mapAttempt _).mono ?_
  rintro _ _ ⟨snapshot, rfl, rfl⟩
  cases snapshot with
  | error e => exact .unreadable e
  | ok snapshot => exact .read snapshot

theorem run_makes (sv : Supervisor) (m : Machine σ) (p : Protected) :
    Makes (sv.run m p).run (sv.run m.recorded p).run (Ran sv p) := by
  rw [run_eq, run_eq]
  refine ((sv.cascade_makes m p).bindAttempt _ fun cascade =>
    (Makes.lift (sv.audit_makes m p)).mapAttempt
      fun audit => (cascade, AuditReport.ofAudit audit)).mono ?_
  rintro _ _ (⟨e, rfl, h⟩ | ⟨cascade, first, rest, hcascade, ⟨_, ⟨audit, rfl, haudit⟩, rfl⟩, rfl⟩)
  · exact .failed e _ h
  · exact .audited cascade audit first rest hcascade haudit

end Supervisor

end Straggler
