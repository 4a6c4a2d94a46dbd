import Mathlib.Data.List.Nodup
import Straggler.Proofs.Exactness

/-!
# The signal budget of a cascade

The calls of a cascade fall into blocks, one for each category. A block begins with the one reading
of the table and then has the three phases of an escalation. In a live cascade each process that
was found gets one graceful signal and at most one forceful one, which follows at once on a probe
that found it alive; a block waits at most once. No more is sent than that, however often a process
may be listed by the table, since a snapshot holds every process number once.
-/

namespace Straggler

set_option autoImplicit false

variable {σ : Type}

/-! ## Blocks -/

/-- What a cascade does for one category and reports of it. The calls are kept by their phases. -/
structure Block where
  report : CategoryReport
  snapshot : Snapshot
  graceful : List Call
  pause : List Call
  forceful : List Call

def Call.isSendTo (pid : Pid) : Call → Bool
  | .send addressee _ _ => addressee == pid
  | .snapshot _ | .probe _ _ | .sleep _ => false

def Call.arrived : Call → Bool
  | .send _ _ delivery => delivery = .sent
  | .snapshot _ | .probe _ _ | .sleep _ => false

def Call.duration : Call → Nat
  | .sleep ms => ms
  | .snapshot _ | .send _ _ _ | .probe _ _ => 0

def waited : List Call → Nat
  | [] => 0
  | call :: rest => call.duration + waited rest

namespace Block

def escalation (b : Block) : List Call :=
  b.graceful ++ b.pause ++ b.forceful

def calls (b : Block) : List Call :=
  .snapshot (.ok b.snapshot) :: b.escalation

def warned (b : Block) : Bool :=
  b.graceful.any Call.arrived

end Block

/-- Calls of a last phase: probes, and forceful signals that follow at once on a probe that found
the same process alive. -/
inductive Strikes (killSignal : Signal) : List Call → Prop
  | nil : Strikes killSignal []
  | spared (pid : Pid) (alive : Bool) {rest : List Call} :
      Strikes killSignal rest → Strikes killSignal (.probe pid alive :: rest)
  | struck (pid : Pid) (delivery : Delivery) {rest : List Call} : Strikes killSignal rest →
      Strikes killSignal (.probe pid true :: .send pid killSignal delivery :: rest)

/-- What a block keeps to. The first law ties it to its category, the two on what happens once are
the budget of every single process. -/
structure Block.Disciplined (sv : Supervisor) (p : Protected) (c : Category) (b : Block) :
    Prop where
  discovered : b.report.discovered = (c.plan p b.snapshot).records
  readOnce : readings b.escalation = []
  graceful : ∀ call ∈ b.graceful, ∃ pid delivery,
    call = .send pid sv.settings.policy.graceSignal delivery
  gracefulOnce : sv.dryRun = false → ∀ pid,
    b.graceful.countP (·.isSendTo pid) = if pid ∈ b.report.discovered.map (·.pid) then 1 else 0
  pause : b.pause = if b.warned = true ∧ sv.settings.policy.graceWindow ≠ 0
    then [.sleep sv.settings.policy.graceWindow] else []
  forceful : Strikes sv.settings.policy.killSignal b.forceful
  forcefulOnce : ∀ pid, b.forceful.countP (·.isSendTo pid) ≤ 1
  warnedBefore : ∀ pid signal delivery, .send pid signal delivery ∈ b.forceful →
    ∃ earlier, .send pid sv.settings.policy.graceSignal earlier ∈ b.graceful
  dry : sv.dryRun = true → b.graceful = [] ∧ b.forceful = []

/-! ## Waiting -/

theorem waited_append (first rest : List Call) :
    waited (first ++ rest) = waited first + waited rest := by
  induction first with
  | nil => exact (Nat.zero_add _).symm
  | cons call first ih => rw [List.cons_append, waited, waited, ih, Nat.add_assoc]

theorem waited_eq_zero {calls : List Call} (h : ∀ call ∈ calls, call.duration = 0) :
    waited calls = 0 := by
  induction calls with
  | nil => rfl
  | cons call calls ih =>
    obtain ⟨hcall, hcalls⟩ := List.forall_mem_cons.mp h
    rw [waited, hcall, ih hcalls]

/-- Nobody waits in a last phase. -/
theorem Strikes.duration_eq_zero {killSignal : Signal} {calls : List Call}
    (h : Strikes killSignal calls) : ∀ call ∈ calls, call.duration = 0 := by
  induction h with
  | nil => exact List.forall_mem_nil _
  | spared pid alive _ ih => exact List.forall_mem_cons.mpr ⟨rfl, ih⟩
  | struck pid delivery _ ih =>
    exact List.forall_mem_cons.mpr ⟨rfl, List.forall_mem_cons.mpr ⟨rfl, ih⟩⟩

namespace Block.Disciplined

variable {sv : Supervisor} {p : Protected} {c : Category} {b : Block}

theorem waited_eq (h : b.Disciplined sv p c) :
    waited b.calls = sv.settings.policy.graceWindow * if b.warned then 1 else 0 := by
  have graceful : waited b.graceful = 0 := by
    refine waited_eq_zero fun call hcall => ?_
    obtain ⟨pid, delivery, rfl⟩ := h.graceful call hcall
    rfl
  have pause : waited b.pause = sv.settings.policy.graceWindow * if b.warned then 1 else 0 := by
    rw [h.pause]
    by_cases window : sv.settings.policy.graceWindow = 0
    · simp [window, waited]
    · cases b.warned <;> simp [window, waited, Call.duration]
  have forceful : waited b.forceful = 0 := waited_eq_zero h.forceful.duration_eq_zero
  calc waited b.calls
      = waited (b.graceful ++ b.pause ++ b.forceful) := Nat.zero_add _
    _ = waited b.graceful + waited b.pause + waited b.forceful := by
      rw [waited_append, waited_append]
    _ = sv.settings.policy.graceWindow * if b.warned then 1 else 0 := by
      rw [graceful, pause, forceful, Nat.zero_add, Nat.add_zero]

end Block.Disciplined

/-- A cascade waits once for each block in which a graceful signal arrived. -/
theorem waited_blocks {sv : Supervisor} {p : Protected} {cs : List Category} {blocks : List Block}
    (h : List.Forall₂ (Block.Disciplined sv p) cs blocks) :
    waited (blocks.flatMap (·.calls)) =
      sv.settings.policy.graceWindow * blocks.countP (·.warned) := by
  induction h with
  | nil => rfl
  | cons hb _ ih =>
    rw [List.flatMap_cons, waited_append, hb.waited_eq, ih, List.countP_cons, Nat.mul_add,
      Nat.add_comm]

/-! ## What a turn adds to a block -/

namespace Strikes

variable {killSignal : Signal}

theorem append {first rest : List Call} (hfirst : Strikes killSignal first)
    (hrest : Strikes killSignal rest) : Strikes killSignal (first ++ rest) := by
  induction hfirst with
  | nil => exact hrest
  | spared pid alive _ ih => exact .spared pid alive ih
  | struck pid delivery _ ih => exact .struck pid delivery ih

end Strikes

namespace Turn

variable (policy : Policy) (t : Turn)

theorem settlement_strikes : Strikes policy.killSignal (t.settlement policy) := by
  unfold settlement
  cases kill : t.kill with
  | none =>
    cases t.alive with
    | none => exact .nil
    | some alive => exact .spared t.record.pid alive .nil
  | some delivery =>
    obtain ⟨_, alive⟩ := there_of_kill_eq_some kill
    rw [alive]
    exact .struck t.record.pid delivery .nil

/-- A process is settled with one forceful signal at most, and nobody else gets one. -/
theorem countP_settlement_le (pid : Pid) :
    (t.settlement policy).countP (·.isSendTo pid) ≤ if t.record.pid == pid then 1 else 0 := by
  unfold settlement
  have probes : (t.alive.map (Call.probe t.record.pid)).toList.countP (·.isSendTo pid) = 0 := by
    cases t.alive <;> rfl
  rw [List.countP_append, probes, Nat.zero_add]
  cases t.kill with
  | none => exact Nat.zero_le _
  | some delivery => exact Nat.le_of_eq (List.countP_singleton ..)

theorem warning_of_mem_settlement {policy : Policy} {t : Turn} {pid : Pid} {signal : Signal}
    {delivery : Delivery} (h : .send pid signal delivery ∈ t.settlement policy) :
    t.warning policy = .send pid policy.graceSignal t.graceful := by
  simp only [settlement, List.mem_append, Option.mem_toList, Option.map_eq_some_iff] at h
  rcases h with ⟨alive, _, ⟨⟩⟩ | ⟨_, _, h⟩
  cases h
  rfl

end Turn

section Batch

variable (policy : Policy) (turns : List Turn)

theorem strikes_settlements : Strikes policy.killSignal (turns.flatMap (·.settlement policy)) := by
  induction turns with
  | nil => exact .nil
  | cons t turns ih =>
    rw [List.flatMap_cons]
    exact (t.settlement_strikes policy).append ih

theorem countP_warnings (pid : Pid) :
    (turns.map (·.warning policy)).countP (·.isSendTo pid) =
      (turns.map (·.record.pid)).count pid := by
  rw [List.countP_map, List.count, List.countP_map]
  rfl

theorem countP_settlements_le (pid : Pid) :
    (turns.flatMap (·.settlement policy)).countP (·.isSendTo pid) ≤
      (turns.map (·.record.pid)).count pid := by
  induction turns with
  | nil => exact Nat.le_refl 0
  | cons t turns ih =>
    have first := t.countP_settlement_le policy pid
    rw [List.flatMap_cons, List.countP_append, List.map_cons, List.count_cons]
    omega

theorem any_arrived_warnings :
    (turns.map (·.warning policy)).any Call.arrived = true ↔ ∃ t ∈ turns, t.graceful = .sent := by
  simp [Turn.warning, Call.arrived]

end Batch

/-! ## A whole cascade -/

namespace Block

def ofTurns (policy : Policy) (report : CategoryReport) (snapshot : Snapshot) (turns : List Turn) :
    Block where
  report := report
  snapshot := snapshot
  graceful := turns.map (·.warning policy)
  pause := window policy turns
  forceful := turns.flatMap (·.settlement policy)

def scan (report : CategoryReport) (snapshot : Snapshot) : Block where
  report := report
  snapshot := snapshot
  graceful := []
  pause := []
  forceful := []

variable {sv : Supervisor} {p : Protected} {c : Category}

theorem scan_disciplined (snapshot : Snapshot) (dry : sv.dryRun = true) :
    (scan (c.report p snapshot none) snapshot).Disciplined sv p c where
  discovered := rfl
  readOnce := rfl
  graceful := List.forall_mem_nil _
  gracefulOnce := by
    intro live
    rw [dry] at live
    cases live
  pause := rfl
  forceful := .nil
  forcefulOnce := fun _ => Nat.zero_le 1
  warnedBefore := nofun
  dry := fun _ => ⟨rfl, rfl⟩

theorem ofTurns_disciplined (snapshot : Snapshot) {turns : List Turn} (live : sv.dryRun = false)
    (hrecords : turns.map (·.record) = (c.plan p snapshot).records) :
    (ofTurns sv.settings.policy
      (c.report p snapshot (some (.ofTurns sv.settings.policy turns))) snapshot turns).Disciplined
      sv p c := by
  have pids : turns.map (·.record.pid) = (c.plan p snapshot).records.map (·.pid) := by
    rw [← hrecords, List.map_map]
    rfl
  -- The table lists a process once, so the batch does.
  have once : (turns.map (·.record.pid)).Nodup := by
    rw [pids]
    exact Record.nodup_pids (c.plan_ascending p snapshot)
  refine {
    discovered := rfl
    readOnce := readings_protocol sv.settings.policy turns
    graceful := ?_
    gracefulOnce := ?_
    pause := ?_
    forceful := strikes_settlements sv.settings.policy turns
    forcefulOnce := ?_
    warnedBefore := ?_
    dry := ?_ }
  · intro call hcall
    obtain ⟨t, _, rfl⟩ := List.mem_map.mp hcall
    exact ⟨t.record.pid, t.graceful, rfl⟩
  · intro _ pid
    calc (turns.map (·.warning sv.settings.policy)).countP (·.isSendTo pid)
        = (turns.map (·.record.pid)).count pid := countP_warnings sv.settings.policy turns pid
      _ = if pid ∈ turns.map (·.record.pid) then 1 else 0 := once.count
      _ = if pid ∈ (c.plan p snapshot).records.map (·.pid) then 1 else 0 := by rw [pids]
  · have arrived := any_arrived_warnings sv.settings.policy turns
    exact if_congr (and_congr_left' arrived.symm) rfl rfl
  · intro pid
    have sent := countP_settlements_le sv.settings.policy turns pid
    have listed := List.nodup_iff_count_le_one.mp once pid
    exact Nat.le_trans sent listed
  · intro pid signal delivery hcall
    obtain ⟨t, ht, hcall⟩ := List.mem_flatMap.mp hcall
    refine ⟨t.graceful, ?_⟩
    rw [← Turn.warning_of_mem_settlement hcall]
    exact List.mem_map_of_mem ht
  · intro dry
    rw [live] at dry
    cases dry

end Block

section Cascade

variable {sv : Supervisor} {p : Protected} {calls : List Call}

theorem Swept.block {c : Category} {r : CategoryReport} (swept : Swept sv p c (.ok r) calls) :
    ∃ b : Block, b.calls = calls ∧ b.report = r ∧ b.Disciplined sv p c := by
  cases swept with
  | dry snapshot dry => exact ⟨_, rfl, rfl, Block.scan_disciplined snapshot dry⟩
  | live snapshot turns live hrecords =>
    exact ⟨_, rfl, rfl, Block.ofTurns_disciplined snapshot live hrecords⟩

theorem InTurn.blocks {cs : List Category} {reports : List CategoryReport}
    (h : InTurn (fun c r part => Swept sv p c (.ok r) part) cs reports calls) :
    ∃ blocks : List Block, calls = blocks.flatMap (·.calls) ∧ reports = blocks.map (·.report) ∧
      List.Forall₂ (Block.Disciplined sv p) cs blocks := by
  induction h with
  | nil => exact ⟨[], rfl, rfl, .nil⟩
  | cons swept _ ih =>
    obtain ⟨b, rfl, rfl, disciplined⟩ := swept.block
    obtain ⟨blocks, rfl, rfl, hblocks⟩ := ih
    exact ⟨b :: blocks, rfl, rfl, .cons disciplined hblocks⟩

/-- The calls of a cascade that succeeds are blocks, one for each category in their order, and each
keeps to its budget. The cascade waits for the window of grace as many times as there are blocks in
which a graceful signal arrived. -/
theorem Supervisor.cascade_keeps_budget (sv : Supervisor) (m : Machine σ)
    (p : Protected) (s : σ) :
    ∃ answer calls t, watched (sv.cascade m.recorded p).run s = ((answer, calls), t) ∧
      (sv.cascade m p).run s = (answer, t) ∧
      ∀ cascade, answer = .ok cascade → ∃ blocks : List Block,
        calls = blocks.flatMap (·.calls) ∧ cascade.categories = blocks.map (·.report) ∧
        List.Forall₂ (Block.Disciplined sv p) sv.settings.categories blocks ∧
        waited calls = sv.settings.policy.graceWindow * blocks.countP (·.warned) := by
  obtain ⟨calls, hwatched, hcascaded⟩ := (sv.cascade_makes m p).watched_eq s
  refine ⟨_, calls, _, hwatched, rfl, ?_⟩
  intro cascade hanswer
  rw [hanswer] at hcascaded
  obtain ⟨blocks, hcalls, hreports, disciplined⟩ := hcascaded.inTurn.blocks
  refine ⟨blocks, hcalls, hreports, disciplined, ?_⟩
  rw [hcalls, waited_blocks disciplined]

end Cascade

end Straggler
