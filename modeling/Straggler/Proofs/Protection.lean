import Straggler.Proofs.Supervision

/-!
# Protected processes

A supervisor leaves a protected process alone: it sends it no signal, it does not probe it, and no
report names it, whatever the table shows and however signals are answered. This holds in every
call of a sequence for the processes that are protected in that call, also when the call fails.
-/

namespace Straggler

set_option autoImplicit false

variable {σ : Type}

def Call.pid? : Call → Option Pid
  | .send pid _ _ | .probe pid _ => some pid
  | .snapshot _ | .sleep _ => none

def Untouched (pid : Pid) (calls : List Call) : Prop :=
  ∀ call ∈ calls, call.pid? ≠ some pid

structure CategoryReport.Omits (pid : Pid) (r : CategoryReport) : Prop where
  discovered : ∀ record ∈ r.discovered, record.pid ≠ pid
  ended : ∀ t, r.termination = some t → ∀ e ∈ t.pids, e.pid ≠ pid

structure CascadeReport.Omits (pid : Pid) (r : CascadeReport) : Prop where
  categories : ∀ c ∈ r.categories, c.Omits pid
  targeted : pid ∉ r.targetedPids

def AuditReport.Omits (pid : Pid) (r : AuditReport) : Prop :=
  ∀ v ∈ r.survivors, v.record.pid ≠ pid

theorem Untouched.append {pid : Pid} {first rest : List Call} (hfirst : Untouched pid first)
    (hrest : Untouched pid rest) : Untouched pid (first ++ rest) :=
  List.forall_mem_append.mpr ⟨hfirst, hrest⟩

theorem Untouched.snapshot (pid : Pid) (answer : Except Error Snapshot) :
    Untouched pid [.snapshot answer] :=
  List.forall_mem_singleton.mpr nofun

/-! ## One category -/

theorem Plan.build_omits {p : Protected} {pid : Pid} (h : p.contains pid) (category : String)
    (found : List Record) : ∀ r ∈ (Plan.build category found p).records, r.pid ≠ pid := by
  rintro r hr rfl
  have spared : (!p.contains r.pid) = true := (List.mem_filter.mp hr).2
  rw [h] at spared
  cases spared

/-- Every call of a batch is about a process of the batch. -/
theorem protocol_untouched {policy : Policy} {turns : List Turn} {pid : Pid}
    (h : ∀ t ∈ turns, t.record.pid ≠ pid) : Untouched pid (protocol policy turns) := by
  have other : ∀ t ∈ turns, some t.record.pid ≠ some pid :=
    fun t ht same => h t ht (Option.some.inj same)
  exact forall_mem_protocol (fun t ht _ _ => other t ht) (fun t ht _ => other t ht) (fun _ => nofun)

namespace Swept

variable {sv : Supervisor} {p : Protected} {pid : Pid} {c : Category} {calls : List Call}

theorem turns_omit (h : p.contains pid) {snapshot : Snapshot} {turns : List Turn}
    (hrecords : turns.map (·.record) = (c.plan p snapshot).records) :
    ∀ t ∈ turns, t.record.pid ≠ pid := by
  intro t ht
  apply Plan.build_omits h c.name (c.rule.discover snapshot)
  rw [← Category.plan, ← hrecords]
  exact List.mem_map_of_mem ht

theorem untouched {answer : Except Error CategoryReport} (swept : Swept sv p c answer calls)
    (h : p.contains pid) : Untouched pid calls := by
  cases swept with
  | unreadable e => exact .snapshot pid _
  | dry snapshot _ => exact .snapshot pid _
  | live snapshot turns _ hrecords =>
    exact (Untouched.snapshot pid _).append (protocol_untouched (turns_omit h hrecords))

theorem omits {r : CategoryReport} (swept : Swept sv p c (.ok r) calls) (h : p.contains pid) :
    r.Omits pid := by
  have discovered := Plan.build_omits h c.name
  cases swept with
  | dry snapshot _ => exact ⟨discovered _, nofun⟩
  | live snapshot turns _ hrecords =>
    refine ⟨discovered _, ?_⟩
    intro _ ended e he
    obtain rfl := Option.some.inj ended
    obtain ⟨t, ht, rfl⟩ := List.mem_map.mp he
    exact turns_omit h hrecords t ht

end Swept

/-! ## The operations -/

theorem CascadeReport.Omits.of_categories {pid : Pid} {r : CascadeReport}
    (h : ∀ c ∈ r.categories, c.Omits pid) : r.Omits pid where
  categories := h
  targeted := by
    intro targeted
    simp only [targetedPids, terminations, List.mem_flatMap, List.mem_filterMap, List.mem_map]
      at targeted
    obtain ⟨t, ⟨c, hc, ht⟩, e, he, rfl⟩ := targeted
    exact (h c hc).ended t ht e he rfl

section Operations

variable {sv : Supervisor} {p : Protected} {pid : Pid} {calls : List Call}

theorem Cascaded.untouched {answer : Except Error CascadeReport} (h : Cascaded sv p answer calls)
    (hp : p.contains pid) : Untouched pid calls := by
  obtain ⟨reports, _, h⟩ := h
  exact h.forall_calls fun _ _ _ swept => swept.untouched hp

theorem Cascaded.omits {r : CascadeReport} (h : Cascaded sv p (.ok r) calls)
    (hp : p.contains pid) : r.Omits pid := by
  obtain ⟨reports, hr, h⟩ := h
  cases reports with
  | error e => cases hr
  | ok reports =>
    cases hr
    exact .of_categories (h.forall_answers fun _ _ _ swept => swept.omits hp)

/-- An audit touches nobody at all. -/
theorem Audited.untouched {answer : Except Error AuditReport} (h : Audited sv p answer calls)
    (pid : Pid) : Untouched pid calls := by
  cases h <;> exact .snapshot pid _

theorem Audited.omits {r : AuditReport} (h : Audited sv p (.ok r) calls) (hp : p.contains pid) :
    r.Omits pid := by
  cases h with
  | read snapshot =>
    intro v hv
    obtain ⟨c, _, hv⟩ := List.mem_flatMap.mp hv
    obtain ⟨record, hrecord, rfl⟩ := List.mem_map.mp hv
    exact Plan.build_omits hp c.name _ record hrecord

theorem Ran.untouched {answer : Except Error (CascadeReport × AuditReport)}
    (h : Ran sv p answer calls) (hp : p.contains pid) : Untouched pid calls := by
  cases h with
  | failed _ _ h => exact h.untouched hp
  | audited _ _ _ _ hcascade haudit => exact (hcascade.untouched hp).append (haudit.untouched pid)

theorem Ran.omits {cascade : CascadeReport} {audit : AuditReport}
    (h : Ran sv p (.ok (cascade, audit)) calls) (hp : p.contains pid) :
    cascade.Omits pid ∧ audit.Omits pid := by
  cases h with
  | audited _ audit _ _ hcascade haudit =>
    refine ⟨hcascade.omits hp, ?_⟩
    cases audit with
    | ok audit => exact haudit.omits hp
    | error e =>
      -- An audit that could not be made lists nobody.
      exact List.forall_mem_nil _

end Operations

/-! ## Sequences of calls -/

/-- A call to a supervisor, with the processes it has to spare. -/
inductive Errand
  | cascade (spared : Protected)
  | audit (spared : Protected)
  | run (spared : Protected)

def Errand.spared : Errand → Protected
  | cascade p | audit p | run p => p

inductive Answer
  | cascade (answer : Except Error CascadeReport)
  | audit (answer : Except Error AuditReport)
  | run (answer : Except Error (CascadeReport × AuditReport))

/-- A failed call brings no report at all. -/
def Answer.Omits (pid : Pid) : Answer → Prop
  | cascade answer => ∀ r, answer = .ok r → r.Omits pid
  | audit answer => ∀ r, answer = .ok r → r.Omits pid
  | run answer => ∀ c a, answer = .ok (c, a) → c.Omits pid ∧ a.Omits pid

namespace Supervisor

def perform (sv : Supervisor) (m : Machine σ) : Errand → StateM σ Answer
  | .cascade p => return .cascade (← (sv.cascade m p).run)
  | .audit p => return .audit (← (sv.audit m p).run)
  | .run p => return .run (← (sv.run m p).run)

/-- One call after the other; a failed one does not keep the next from being made. -/
def performAll (sv : Supervisor) (m : Machine σ) (errands : List Errand) : StateM σ (List Answer) :=
  errands.mapM (sv.perform m)

def performAllWatched (sv : Supervisor) (m : Machine σ) (errands : List Errand) :
    StateM σ (List (Answer × List Call)) :=
  errands.mapM fun errand => watched (sv.perform m.recorded errand)

theorem perform_makes (sv : Supervisor) (m : Machine σ) (errand : Errand) :
    Makes (sv.perform m errand) (sv.perform m.recorded errand) fun answer calls =>
      ∀ pid, errand.spared.contains pid → Untouched pid calls ∧ answer.Omits pid := by
  cases errand with
  | cascade p =>
    refine ((sv.cascade_makes m p).map Answer.cascade).mono ?_
    rintro _ calls ⟨answer, h, rfl⟩ pid hp
    refine ⟨h.untouched hp, ?_⟩
    rintro r rfl
    exact h.omits hp
  | audit p =>
    refine ((sv.audit_makes m p).map Answer.audit).mono ?_
    rintro _ calls ⟨answer, h, rfl⟩ pid hp
    refine ⟨h.untouched pid, ?_⟩
    rintro r rfl
    exact h.omits hp
  | run p =>
    refine ((sv.run_makes m p).map Answer.run).mono ?_
    rintro _ calls ⟨answer, h, rfl⟩ pid hp
    refine ⟨h.untouched hp, ?_⟩
    rintro c a rfl
    exact h.omits hp

/-- In any sequence of calls, each with its own protected processes, a process that is protected in
a call is neither signaled nor probed during it, nor named in what it comes back with. -/
theorem protected_stay_untouched (sv : Supervisor) (m : Machine σ) (errands : List Errand) (s : σ) :
    ∃ seen : List (Answer × List Call),
      sv.performAllWatched m errands s = (seen, (sv.performAll m errands s).2) ∧
      seen.map (·.1) = (sv.performAll m errands s).1 ∧
      List.Forall₂ (fun errand (answer, calls) => ∀ pid, errand.spared.contains pid →
        Untouched pid calls ∧ answer.Omits pid) errands seen :=
  Makes.watched_mapM (sv.perform_makes m) errands s

end Supervisor

end Straggler
