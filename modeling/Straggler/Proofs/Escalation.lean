import Mathlib.Data.List.Forall2
import Straggler.Proofs.Recording

/-!
# The protocol of an escalation

A batch is escalated in three phases: every process of the plan gets the graceful signal, time
passes at most once, and every process that was there for its graceful signal is probed and, if
alive, gets the forceful one. `protocol` writes these calls down from what each process answered;
`terminate` makes them and no others, on every machine, and its report on a process follows from
the answers of that process alone.
-/

namespace Straggler

set_option autoImplicit false

variable {σ : Type}

/-- One process of a batch with its answers. Only a process that was there for its graceful signal
is probed, and only one that is alive then gets the forceful signal. -/
structure Turn where
  record : Record
  graceful : Delivery
  alive : Option Bool
  kill : Option Delivery
  probed : alive.isSome ↔ graceful ≠ .noSuchProcess
  killed : kill.isSome ↔ alive = some true

namespace Turn

def absent (r : Record) : Turn where
  record := r
  graceful := .noSuchProcess
  alive := none
  kill := none
  probed := by simp
  killed := by simp

def exited (r : Record) (graceful : Delivery) (there : graceful ≠ .noSuchProcess) : Turn where
  record := r
  graceful := graceful
  alive := some false
  kill := none
  probed := by simp [there]
  killed := by simp

def struck (r : Record) (graceful : Delivery) (there : graceful ≠ .noSuchProcess)
    (kill : Delivery) : Turn where
  record := r
  graceful := graceful
  alive := some true
  kill := some kill
  probed := by simp [there]
  killed := by simp

def warning (policy : Policy) (t : Turn) : Call :=
  .send t.record.pid policy.graceSignal t.graceful

def settlement (policy : Policy) (t : Turn) : List Call :=
  (t.alive.map (.probe t.record.pid)).toList
    ++ (t.kill.map (.send t.record.pid policy.killSignal)).toList

/-- A process counts as gone unless the forceful signal reached it or failed. -/
def outcome (t : Turn) : Outcome :=
  match t.kill with
  | some .sent => .terminated
  | some (.failed reason) => .signalFailed reason
  | some .noSuchProcess | none => .alreadyGone

def report (t : Turn) : PidReport :=
  .of t.record t.graceful (t.kill = some .sent) t.outcome

end Turn

def TerminationReport.ofTurns (policy : Policy) (turns : List Turn) : TerminationReport where
  graceSignal := policy.graceSignal.name
  killSignal := policy.killSignal.name
  pids := turns.map (·.report)

/-- Time passes at most once for a batch, however large. -/
def window (policy : Policy) (turns : List Turn) : List Call :=
  if (∃ t ∈ turns, t.graceful = .sent) ∧ policy.graceWindow ≠ 0 then [.sleep policy.graceWindow]
  else []

def protocol (policy : Policy) (turns : List Turn) : List Call :=
  turns.map (·.warning policy) ++ window policy turns ++ turns.flatMap (·.settlement policy)

/-- A batch makes no other calls than signals to its processes, probes of them and sleeps. -/
theorem forall_mem_protocol {policy : Policy} {turns : List Turn} {P : Call → Prop}
    (send : ∀ t ∈ turns, ∀ signal delivery, P (.send t.record.pid signal delivery))
    (probe : ∀ t ∈ turns, ∀ alive, P (.probe t.record.pid alive)) (sleep : ∀ ms, P (.sleep ms)) :
    ∀ call ∈ protocol policy turns, P call := by
  intro call hcall
  simp only [protocol, List.mem_append, List.mem_map, List.mem_flatMap] at hcall
  rcases hcall with (⟨t, ht, rfl⟩ | hcall) | ⟨t, ht, hcall⟩
  · exact send t ht policy.graceSignal t.graceful
  · unfold window at hcall
    split at hcall
    · rw [List.mem_singleton.mp hcall]
      exact sleep policy.graceWindow
    · cases hcall
  · simp only [Turn.settlement, List.mem_append, Option.mem_toList,
      Option.map_eq_some_iff] at hcall
    rcases hcall with ⟨alive, _, rfl⟩ | ⟨delivery, _, rfl⟩
    · exact probe t ht alive
    · exact send t ht policy.killSignal delivery

/-! ## The phases -/

def warn (m : Machine σ) (policy : Policy) (r : Record) : StateM σ (Record × Delivery) := do
  return (r, ← m.send r.pid policy.graceSignal)

def pause (m : Machine σ) (policy : Policy) (warned : List (Record × Delivery)) : StateM σ Unit :=
  if warned.any (·.2 = .sent) && policy.graceWindow != 0 then m.sleep policy.graceWindow
  else pure ()

theorem terminate_eq (m : Machine σ) (policy : Policy) (plan : Plan) :
    terminate m policy plan = (plan.records.mapM (warn m policy) >>= fun warned =>
      pause m policy warned >>= fun _ =>
      (warned.mapM fun (r, graceful) => settle m policy r graceful) >>= fun pids =>
      pure { graceSignal := policy.graceSignal.name
             killSignal := policy.killSignal.name
             pids }) := by
  unfold terminate pause
  congr 1
  funext warned
  split <;> rfl

theorem warn_makes (m : Machine σ) (policy : Policy) (r : Record) :
    Makes (warn m policy r) (warn m.recorded policy r) fun answer calls =>
      answer.1 = r ∧ calls = [.send r.pid policy.graceSignal answer.2] := by
  refine ((Makes.send m r.pid policy.graceSignal).map fun graceful => (r, graceful)).mono ?_
  rintro _ _ ⟨graceful, rfl, rfl⟩
  exact ⟨rfl, rfl⟩

theorem pause_makes (m : Machine σ) (policy : Policy) (warned : List (Record × Delivery)) :
    Makes (pause m policy warned) (pause m.recorded policy warned) fun _ calls =>
      calls = if (∃ w ∈ warned, w.2 = .sent) ∧ policy.graceWindow ≠ 0
        then [.sleep policy.graceWindow] else [] := by
  have condition : (warned.any (·.2 = .sent) && policy.graceWindow != 0) = true ↔
      (∃ w ∈ warned, w.2 = .sent) ∧ policy.graceWindow ≠ 0 := by
    simp
  unfold pause
  by_cases h : (warned.any (·.2 = .sent) && policy.graceWindow != 0) = true
  · rw [if_pos h, if_pos h, if_pos (condition.mp h)]
    exact Makes.sleep m policy.graceWindow
  · rw [if_neg h, if_neg h, if_neg fun c => h (condition.mpr c)]
    exact (Makes.pure ()).mono fun _ _ made => made.2

/-- Whatever the graceful signal came to, a process is settled by a turn that began with it. -/
theorem settle_makes (m : Machine σ) (policy : Policy) (r : Record) (graceful : Delivery) :
    Makes (settle m policy r graceful) (settle m.recorded policy r graceful) fun report calls =>
      ∃ t : Turn, t.record = r ∧ t.graceful = graceful ∧ report = t.report ∧
        calls = t.settlement policy := by
  unfold settle
  by_cases gone : graceful = .noSuchProcess
  · subst gone
    rw [if_pos rfl, if_pos rfl]
    refine (Makes.pure _).mono ?_
    rintro _ _ ⟨rfl, rfl⟩
    exact ⟨.absent r, rfl, rfl, rfl, rfl⟩
  · rw [if_neg gone, if_neg gone]
    refine ((Makes.isAlive m r.pid).bind (fun alive report calls => ∃ t : Turn,
      t.record = r ∧ t.graceful = graceful ∧ report = t.report ∧
        .probe r.pid alive :: calls = t.settlement policy) fun alive => ?_).mono ?_
    · cases alive with
      | false =>
        refine (Makes.pure _).mono ?_
        rintro _ _ ⟨rfl, rfl⟩
        exact ⟨.exited r graceful gone, rfl, rfl, rfl, rfl⟩
      | true =>
        refine ((Makes.send m r.pid policy.killSignal).bind (fun kill report calls =>
          report = (Turn.struck r graceful gone kill).report ∧ calls = []) fun kill => ?_).mono ?_
        · cases kill <;> exact Makes.pure _
        · rintro _ _ ⟨kill, _, _, rfl, ⟨rfl, rfl⟩, rfl⟩
          exact ⟨.struck r graceful gone kill, rfl, rfl, rfl, rfl⟩
    · rintro _ _ ⟨alive, _, rest, rfl, turn, rfl⟩
      exact turn

/-! ## A whole batch -/

theorem InTurn.warned {policy : Policy} {records : List Record} {warned : List (Record × Delivery)}
    {calls : List Call}
    (h : InTurn (fun r w calls => w.1 = r ∧ calls = [.send r.pid policy.graceSignal w.2])
      records warned calls) :
    warned.map (·.1) = records ∧
      calls = warned.map fun w => .send w.1.pid policy.graceSignal w.2 := by
  induction h with
  | nil => exact ⟨rfl, rfl⟩
  | cons h _ ih =>
    obtain ⟨rfl, rfl⟩ := h
    exact ⟨congrArg _ ih.1, congrArg _ ih.2⟩

theorem InTurn.turns {policy : Policy} {warned : List (Record × Delivery)} {pids : List PidReport}
    {calls : List Call}
    (h : InTurn (fun (r, graceful) report calls => ∃ t : Turn, t.record = r ∧
      t.graceful = graceful ∧ report = t.report ∧ calls = t.settlement policy) warned pids calls) :
    ∃ turns : List Turn, warned = turns.map (fun t => (t.record, t.graceful)) ∧
      pids = turns.map (·.report) ∧ calls = turns.flatMap (·.settlement policy) := by
  induction h with
  | nil => exact ⟨[], rfl, rfl, rfl⟩
  | cons h _ ih =>
    obtain ⟨t, hr, hg, rfl, rfl⟩ := h
    obtain ⟨turns, rfl, rfl, rfl⟩ := ih
    refine ⟨t :: turns, ?_, rfl, rfl⟩
    rw [List.map_cons, hr, hg]

/-- A batch is escalated in turns. They give the calls, in the order of the protocol, and the
report. -/
theorem terminate_makes (m : Machine σ) (policy : Policy) (plan : Plan) :
    Makes (terminate m policy plan) (terminate m.recorded policy plan) fun report calls =>
      ∃ turns : List Turn, turns.map (·.record) = plan.records ∧
        report = .ofTurns policy turns ∧ calls = protocol policy turns := by
  rw [terminate_eq, terminate_eq]
  refine ((Makes.mapM (warn_makes m policy) plan.records).bind _ fun warned =>
    (pause_makes m policy warned).bind _ fun _ =>
    (Makes.mapM (fun w => settle_makes m policy w.1 w.2) warned).bind _ fun pids =>
    Makes.pure _).mono ?_
  rintro _ _ ⟨warned, _, _, hwarned, ⟨_, _, _, rfl, ⟨pids, _, _, hpids, ⟨rfl, rfl⟩, rfl⟩, rfl⟩, rfl⟩
  obtain ⟨hrecords, rfl⟩ := hwarned.warned
  obtain ⟨turns, rfl, rfl, rfl⟩ := hpids.turns
  refine ⟨turns, ?_, rfl, ?_⟩
  · rw [← hrecords, List.map_map]
    rfl
  · simp [protocol, window, Turn.warning, Function.comp_def]

/-- An escalation makes the calls of the protocol and no others, whatever the machine answers. With
nothing to escalate there is no call at all, and no time passes. -/
theorem terminate_follows_protocol (m : Machine σ) (policy : Policy) (plan : Plan) (s : σ)
    (earlier : List Call) :
    (∃ turns : List Turn, turns.map (·.record) = plan.records ∧
      terminate m.recorded policy plan (s, earlier) =
        ((terminate m policy plan s).1, (terminate m policy plan s).2,
          (protocol policy turns).reverse ++ earlier)) ∧
    (terminate m.recorded policy { plan with records := [] } (s, earlier)).2 = (s, earlier) := by
  constructor
  · obtain ⟨made, ⟨turns, hrecords, _, rfl⟩, hrun⟩ := terminate_makes m policy plan s earlier
    exact ⟨turns, hrecords, hrun⟩
  · rw [terminate_eq]
    rfl

/-! ## The report -/

/-- What there is to say of a turn. A graceful signal that failed is not the end of it: the
outcome is a failure only if the forceful signal failed, and the reason is the one given then. -/
structure Turn.Reported (t : Turn) (r : PidReport) : Prop where
  pid : r.pid = t.record.pid
  commandLine : r.commandLine = t.record.commandLine
  gracefulSent : r.gracefulSent ↔ t.graceful = .sent
  forceSent : r.forceSent ↔ t.kill = some .sent
  terminated : r.outcome = .terminated ↔ r.forceSent
  signalFailed : ∀ reason, r.outcome = .signalFailed reason ↔ t.kill = some (.failed reason)
  alreadyGone : r.outcome = .alreadyGone ↔
    t.graceful = .noSuchProcess ∨ t.alive = some false ∨ t.kill = some .noSuchProcess

namespace Turn

/-- Without a forceful signal the process was gone before the graceful one, or by the probe. -/
theorem gone_of_kill_eq_none {t : Turn} (h : t.kill = none) :
    t.graceful = .noSuchProcess ∨ t.alive = some false := by
  have spared : t.alive ≠ some true := fun alive => by simpa [h] using t.killed.mpr alive
  cases alive : t.alive with
  | none =>
    refine .inl (Classical.byContradiction fun there => ?_)
    simpa [alive] using t.probed.mpr there
  | some b =>
    cases b with
    | false => exact .inr rfl
    | true => exact absurd alive spared

theorem there_of_kill_eq_some {t : Turn} {d : Delivery} (h : t.kill = some d) :
    t.graceful ≠ .noSuchProcess ∧ t.alive = some true := by
  have alive : t.alive = some true := t.killed.mp (by rw [h]; rfl)
  exact ⟨t.probed.mp (by rw [alive]; rfl), alive⟩

theorem outcome_eq_terminated_iff (t : Turn) : t.outcome = .terminated ↔ t.kill = some .sent := by
  rcases kill : t.kill with _ | _ | _ | _ <;> simp [outcome, kill]

theorem outcome_eq_signalFailed_iff (t : Turn) (reason : String) :
    t.outcome = .signalFailed reason ↔ t.kill = some (.failed reason) := by
  rcases kill : t.kill with _ | _ | _ | _ <;> simp [outcome, kill]

theorem outcome_eq_alreadyGone_iff (t : Turn) : t.outcome = .alreadyGone ↔
    t.graceful = .noSuchProcess ∨ t.alive = some false ∨ t.kill = some .noSuchProcess := by
  cases kill : t.kill with
  | none =>
    have gone := gone_of_kill_eq_none kill
    simp only [outcome, kill, true_iff]
    exact gone.imp_right .inl
  | some d =>
    obtain ⟨there, alive⟩ := there_of_kill_eq_some kill
    cases d <;> simp [outcome, kill, there, alive]

theorem reported (t : Turn) : t.Reported t.report where
  pid := rfl
  commandLine := rfl
  gracefulSent := decide_eq_true_iff
  forceSent := decide_eq_true_iff
  terminated := t.outcome_eq_terminated_iff.trans decide_eq_true_iff.symm
  signalFailed := t.outcome_eq_signalFailed_iff
  alreadyGone := t.outcome_eq_alreadyGone_iff

end Turn

/-- Every process of a report has one of the three outcomes. -/
theorem TerminationReport.count_add_count_add_failures (r : TerminationReport) :
    r.count .terminated + r.count .alreadyGone + r.failures.length = r.pids.length := by
  have one (o : Outcome) : (if o == .terminated then 1 else 0)
      + (if o == .alreadyGone then 1 else 0) + (if o.isFailure then 1 else 0) = 1 := by
    cases o <;> rfl
  unfold count failures
  rw [← List.countP_eq_length_filter]
  induction r.pids with
  | nil => rfl
  | cons p ps ih =>
    have hp := one p.outcome
    rw [List.countP_cons, List.countP_cons, List.countP_cons, List.length_cons]
    omega

/-- The report has one entry for each process of the plan, and each entry is true of what that
process itself answered. -/
theorem terminate_reports_turns (m : Machine σ) (policy : Policy) (plan : Plan) (s : σ)
    (earlier : List Call) :
    ∃ turns : List Turn, turns.map (·.record) = plan.records ∧
      terminate m.recorded policy plan (s, earlier) =
        ((terminate m policy plan s).1, (terminate m policy plan s).2,
          (protocol policy turns).reverse ++ earlier) ∧
      List.Forall₂ Turn.Reported turns (terminate m policy plan s).1.pids ∧
      (terminate m policy plan s).1.count .terminated
        + (terminate m policy plan s).1.count .alreadyGone
        + (terminate m policy plan s).1.failures.length = plan.records.length := by
  obtain ⟨made, ⟨turns, hrecords, hreport, rfl⟩, hrun⟩ := terminate_makes m policy plan s earlier
  refine ⟨turns, hrecords, hrun, ?_, ?_⟩
  · rw [hreport, TerminationReport.ofTurns, List.forall₂_map_right_iff]
    exact List.forall₂_same.mpr fun t _ => t.reported
  · rw [TerminationReport.count_add_count_add_failures, hreport, ← hrecords,
      TerminationReport.ofTurns, List.length_map, List.length_map]

end Straggler
