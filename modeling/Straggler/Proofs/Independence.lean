import Mathlib.Data.List.Nodup
import Mathlib.Logic.Function.Basic
import Straggler.Proofs.Exactness

/-!
# Independent processes

Where no process takes notice of what is done to another, the order of a batch does not count. What
the members of a batch share is the window of grace, and whether there is one does not depend on
their order. So each process gets the same report and ends up the same in every order.

Processes with one number in a batch are excluded: such a process would be signaled twice, and what
the second signal meets does depend on the first.
-/

namespace Straggler

set_option autoImplicit false

variable {σ τ α β : Type}

/-- A computation that concerns one process alone: it changes the state of no other, and its answer
and what it makes of that process follow from the process's own state. -/
structure Concerns (own : σ → Pid → τ) (pid : Pid) (x : StateM σ α) : Prop where
  apart : ∀ s other, other ≠ pid → own (x s).2 other = own s other
  answer : ∀ s t, own s pid = own t pid → (x s).1 = (x t).1
  effect : ∀ s t, own s pid = own t pid → own (x s).2 pid = own (x t).2 pid

/-- A machine whose processes have each a state of their own. Time passes for all of them, but for
each by itself. -/
structure Independent (m : Machine σ) (own : σ → Pid → τ) : Prop where
  send : ∀ pid signal, Concerns own pid (m.send pid signal)
  probe : ∀ pid, Concerns own pid (m.isAlive pid)
  sleep : ∀ ms pid s t, own s pid = own t pid →
    own (m.sleep ms s).2 pid = own (m.sleep ms t).2 pid

namespace Concerns

variable {own : σ → Pid → τ} {pid : Pid}

protected theorem pure (a : α) : Concerns own pid (pure a : StateM σ α) where
  apart := fun _ _ _ => rfl
  answer := fun _ _ _ => rfl
  effect := fun _ _ same => same

protected theorem bind {x : StateM σ α} {f : α → StateM σ β} (hx : Concerns own pid x)
    (hf : ∀ a, Concerns own pid (f a)) : Concerns own pid (x >>= f) where
  apart := by
    intro s other ne
    rw [bind_apply, (hf _).apart _ other ne, hx.apart s other ne]
  answer := by
    intro s t same
    rw [bind_apply, bind_apply, hx.answer s t same]
    exact (hf _).answer _ _ (hx.effect s t same)
  effect := by
    intro s t same
    rw [bind_apply, bind_apply, hx.answer s t same]
    exact (hf _).effect _ _ (hx.effect s t same)

/-! ## Loops over different processes -/

section Loop

variable {key : α → Pid} {f : α → StateM σ β}

/-- In a loop over different processes each is met as it was before the loop. -/
theorem mapM (h : ∀ a, Concerns own (key a) (f a)) {l : List α} (distinct : (l.map key).Nodup)
    (s : σ) :
    (l.mapM f s).1 = l.map (fun a => (f a s).1) ∧
    (∀ a ∈ l, own (l.mapM f s).2 (key a) = own (f a s).2 (key a)) ∧
    (∀ pid ∉ l.map key, own (l.mapM f s).2 pid = own s pid) := by
  induction l generalizing s with
  | nil => exact ⟨rfl, List.forall_mem_nil _, fun _ _ => rfl⟩
  | cons a as ih =>
    rw [List.map_cons, List.nodup_cons] at distinct
    obtain ⟨fresh, distinct⟩ := distinct
    obtain ⟨answers, members, others⟩ := ih distinct (f a s).2
    -- The first step leaves the later processes as they were.
    have same : ∀ b ∈ as, own (f a s).2 (key b) = own s (key b) := by
      intro b hb
      apply (h a).apart s (key b)
      intro equal
      exact fresh (List.mem_map.mpr ⟨b, hb, equal⟩)
    have made : (a :: as).mapM f s =
        ((f a s).1 :: (as.mapM f (f a s).2).1, (as.mapM f (f a s).2).2) := by
      rw [List.mapM_cons]
      rfl
    rw [made]
    refine ⟨?_, ?_, ?_⟩
    · rw [List.map_cons, answers]
      exact congrArg _ (List.map_congr_left fun b hb => (h b).answer _ _ (same b hb))
    · refine List.forall_mem_cons.mpr ⟨others (key a) fresh, fun b hb => ?_⟩
      rw [members b hb]
      exact (h b).effect _ _ (same b hb)
    · intro pid absent
      rw [List.map_cons, List.mem_cons, not_or] at absent
      rw [others pid absent.2]
      exact (h a).apart s pid absent.1

/-- Such a loop in another order, from a state that is the same to each process, comes to the same
for each item and each process. -/
theorem mapM_perm (h : ∀ a, Concerns own (key a) (f a)) {l l' : List α} (perm : l.Perm l')
    (distinct : (l.map key).Nodup) {s t : σ} (same : own s = own t) :
    (l.mapM f s).1 = l.map (fun a => (f a s).1) ∧ (l'.mapM f t).1 = l'.map (fun a => (f a s).1) ∧
      own (l.mapM f s).2 = own (l'.mapM f t).2 := by
  have distinct' : (l'.map key).Nodup := (perm.map key).nodup_iff.mp distinct
  obtain ⟨answers, members, others⟩ := mapM h distinct s
  obtain ⟨answers', members', others'⟩ := mapM h distinct' t
  refine ⟨answers, ?_, ?_⟩
  · rw [answers']
    exact List.map_congr_left fun a _ => (h a).answer t s (congrFun same (key a)).symm
  · funext pid
    by_cases hpid : pid ∈ l.map key
    · obtain ⟨a, ha, rfl⟩ := List.mem_map.mp hpid
      rw [members a ha, members' a (perm.mem_iff.mp ha)]
      exact (h a).effect s t (congrFun same (key a))
    · have hpid' : pid ∉ l'.map key := fun mem => hpid ((perm.map key).mem_iff.mpr mem)
      rw [others pid hpid, others' pid hpid']
      exact congrFun same pid

end Loop

end Concerns

/-! ## Processes by themselves -/

structure Manner (τ : Type) where
  send : Signal → τ → Delivery × τ
  probe : τ → Bool × τ
  sleep : Nat → τ → τ

theorem Concerns.update (pid : Pid) (f : τ → α × τ) :
    Concerns id pid fun s => ((f (s pid)).1, Function.update s pid (f (s pid)).2) where
  apart := fun s other ne => Function.update_of_ne ne _ s
  answer := by
    intro s t same
    exact congrArg (fun own => (f own).1) same
  effect := by
    intro s t same
    simp only [id, Function.update_self] at same ⊢
    rw [same]

namespace Manner

def machine (manner : Pid → Manner τ) : Machine (Pid → τ) where
  snapshot := fun s => (.ok .empty, s)
  send := fun pid signal s => (((manner pid).send signal (s pid)).1,
    Function.update s pid ((manner pid).send signal (s pid)).2)
  isAlive := fun pid s => (((manner pid).probe (s pid)).1,
    Function.update s pid ((manner pid).probe (s pid)).2)
  sleep := fun ms s => ((), fun pid => (manner pid).sleep ms (s pid))

theorem machine_independent (manner : Pid → Manner τ) : Independent (machine manner) id where
  send := fun pid signal => .update pid ((manner pid).send signal)
  probe := fun pid => .update pid (manner pid).probe
  sleep := fun ms pid _ _ same => congrArg ((manner pid).sleep ms) same

end Manner

/-- A process that leaves some time after it was asked to, unless it is gone or cannot be asked. -/
inductive Life
  | gone
  | staying (patience : Nat)
  | leaving (ms : Nat)
  | refusing

namespace Life

def manner : Manner Life where
  send
    | _, gone => (.noSuchProcess, gone)
    | .kill, staying _ => (.sent, gone)
    | _, staying patience => (.sent, leaving patience)
    | .kill, leaving _ => (.sent, gone)
    | _, leaving ms => (.sent, leaving ms)
    | _, refusing => (.failed "Operation not permitted", refusing)
  probe
    | gone => (false, gone)
    | life => (true, life)
  sleep
    | ms, leaving left => if left ≤ ms then gone else leaving (left - ms)
    | _, life => life

def machine : Machine (Pid → Life) :=
  Manner.machine fun _ => manner

/-- One leaves in time, one does not, one cannot be signaled and nobody else is there. -/
def start : Pid → Life
  | 41 => staying 400
  | 42 => staying 2000
  | 43 => refusing
  | _ => gone

def batch : Plan where
  category := "generic"
  records := [⟨40, "pytest"⟩, ⟨41, "pytest"⟩, ⟨42, "pytest"⟩, ⟨43, "pytest"⟩]
  skipped := 0

end Life

/-! ## One batch in two orders -/

namespace Independent

variable {m : Machine σ} {own : σ → Pid → τ}

theorem warn (h : Independent m own) (policy : Policy) (r : Record) :
    Concerns own r.pid (Straggler.warn m policy r) :=
  (h.send r.pid policy.graceSignal).bind fun graceful => .pure (r, graceful)

theorem settle (h : Independent m own) (policy : Policy) (r : Record) (graceful : Delivery) :
    Concerns own r.pid (Straggler.settle m policy r graceful) := by
  unfold Straggler.settle
  by_cases gone : graceful = .noSuchProcess
  · rw [if_pos gone]
    exact .pure _
  · rw [if_neg gone]
    refine (h.probe r.pid).bind fun alive => ?_
    cases alive with
    | false => exact .pure _
    | true =>
      refine (h.send r.pid policy.killSignal).bind fun kill => ?_
      cases kill <;> exact .pure _

/-- Whether there is a window of grace does not depend on the order. -/
theorem pause_perm (h : Independent m own) (policy : Policy)
    {warned warned' : List (Record × Delivery)} (perm : warned.Perm warned') {s t : σ}
    (same : own s = own t) :
    own (pause m policy warned s).2 = own (pause m policy warned' t).2 := by
  have any : warned.any (·.2 = .sent) = warned'.any (·.2 = .sent) := perm.any_eq
  unfold pause
  rw [any]
  split
  · funext pid
    exact h.sleep policy.graceWindow pid s t (congrFun same pid)
  · exact same

/-- Each process has its report, whatever the order, and each ends up in the same state. -/
theorem terminate_each (h : Independent m own) (policy : Policy) {plan plan' : Plan}
    (perm : plan.records.Perm plan'.records) (distinct : (plan.records.map (·.pid)).Nodup) (s : σ) :
    ∃ each : Record → PidReport,
      (terminate m policy plan s).1.pids = plan.records.map each ∧
      (terminate m policy plan' s).1.pids = plan'.records.map each ∧
      own (terminate m policy plan s).2 = own (terminate m policy plan' s).2 := by
  obtain ⟨hwarned, hwarned', warned⟩ :=
    Concerns.mapM_perm (fun r => h.warn policy r) perm distinct (s := s) (t := s) rfl
  have permWarned : (plan.records.mapM (Straggler.warn m policy) s).1.Perm
      (plan'.records.mapM (Straggler.warn m policy) s).1 := by
    rw [hwarned, hwarned']
    exact perm.map _
  have distinctWarned :
      ((plan.records.mapM (Straggler.warn m policy) s).1.map (·.1.pid)).Nodup := by
    rw [hwarned, List.map_map]
    exact distinct
  have paused := h.pause_perm policy permWarned warned
  obtain ⟨hreports, hreports', settled⟩ := Concerns.mapM_perm
    (fun (w : Record × Delivery) => h.settle policy w.1 w.2) permWarned distinctWarned paused
  have reports := hreports.trans (congrArg (List.map _) hwarned)
  have reports' := hreports'.trans (congrArg (List.map _) hwarned')
  rw [List.map_map] at reports reports'
  rw [terminate_eq, terminate_eq]
  exact ⟨_, reports, reports', settled⟩

end Independent

/-- Time passes for a batch if the window is not empty and the report has a graceful signal that
arrived. -/
theorem sleep_mem_protocol {policy : Policy} {turns : List Turn} {ms : Nat} :
    .sleep ms ∈ protocol policy turns ↔ ms = policy.graceWindow ∧ policy.graceWindow ≠ 0 ∧
      ∃ e ∈ (TerminationReport.ofTurns policy turns).pids, e.gracefulSent = true := by
  have warnings : .sleep ms ∉ turns.map (·.warning policy) := by
    intro mem
    obtain ⟨_, _, made⟩ := List.mem_map.mp mem
    cases made
  have settlements : .sleep ms ∉ turns.flatMap (·.settlement policy) := by
    intro mem
    obtain ⟨t, _, made⟩ := List.mem_flatMap.mp mem
    simp [Turn.settlement] at made
  have arrived : (∃ e ∈ (TerminationReport.ofTurns policy turns).pids, e.gracefulSent = true) ↔
      ∃ t ∈ turns, t.graceful = .sent := by
    simp [TerminationReport.ofTurns, Turn.report, PidReport.of]
  rw [arrived, protocol, List.mem_append, List.mem_append, window]
  by_cases waits : (∃ t ∈ turns, t.graceful = .sent) ∧ policy.graceWindow ≠ 0
  · obtain ⟨sent, nonzero⟩ := waits
    simp [warnings, settlements, sent, nonzero]
  · simp only [if_neg waits, warnings, settlements, List.not_mem_nil, or_self, false_iff]
    rintro ⟨_, nonzero, sent⟩
    exact waits ⟨sent, nonzero⟩

/-- A batch in another order sleeps just as the batch in the given order does, reports the same of
each process and leaves each of them in the same state. -/
theorem terminate_perm {m : Machine σ} {own : σ → Pid → τ} (independent : Independent m own)
    (policy : Policy) (plan : Plan) {records : List Record} (perm : plan.records.Perm records)
    (distinct : (plan.records.map (·.pid)).Nodup) (s : σ) :
    ∃ each report calls t report' calls' t',
      watched (terminate m.recorded policy plan) s = ((report, calls), t) ∧
      terminate m policy plan s = (report, t) ∧
      watched (terminate m.recorded policy { plan with records }) s = ((report', calls'), t') ∧
      terminate m policy { plan with records } s = (report', t') ∧
      (∀ ms, .sleep ms ∈ calls ↔ .sleep ms ∈ calls') ∧ own t = own t' ∧
      (∀ r ∈ plan.records, (each r).record = r) ∧
      report.pids = plan.records.map each ∧ report' = { report with pids := records.map each } := by
  have permuted : plan.records.Perm ({ plan with records } : Plan).records := perm
  obtain ⟨each, reports, reports', same⟩ := independent.terminate_each policy permuted distinct s
  obtain ⟨calls, hwatched, turns, hrecords, hreport, rfl⟩ :=
    (terminate_makes m policy plan).watched_eq s
  obtain ⟨calls', hwatched', turns', _, hreport', rfl⟩ :=
    (terminate_makes m policy { plan with records }).watched_eq s
  refine ⟨each, _, _, _, _, _, _, hwatched, rfl, hwatched', rfl, ?_, same, ?_, reports, ?_⟩
  · intro ms
    have mem (e : PidReport) : e ∈ plan.records.map each ↔ e ∈ records.map each :=
      (perm.map each).mem_iff
    rw [sleep_mem_protocol, sleep_mem_protocol, ← hreport, ← hreport', reports, reports']
    simp only [mem]
  · have own : (plan.records.map each).map (·.record) = plan.records := by
      rw [← reports, hreport, ← hrecords, TerminationReport.ofTurns, List.map_map]
      rfl
    rw [List.map_map] at own
    exact List.map_inj_left.mp (own.trans (List.map_id plan.records).symm)
  · rw [← reports', hreport, hreport']
    rfl

theorem terminate_perm_reversed :
    Independent Life.machine id ∧ Life.batch.records.Perm Life.batch.records.reverse ∧
    (Life.batch.records.map (·.pid)).Nodup ∧
    ∃ each report calls t report' calls' t',
      watched (terminate Life.machine.recorded {} Life.batch) Life.start = ((report, calls), t) ∧
      terminate Life.machine {} Life.batch Life.start = (report, t) ∧
      watched (terminate Life.machine.recorded {}
        { Life.batch with records := Life.batch.records.reverse }) Life.start =
        ((report', calls'), t') ∧
      terminate Life.machine {} { Life.batch with records := Life.batch.records.reverse }
        Life.start = (report', t') ∧
      (∀ ms, .sleep ms ∈ calls ↔ .sleep ms ∈ calls') ∧ id t = id t' ∧
      (∀ r ∈ Life.batch.records, (each r).record = r) ∧
      report.pids = Life.batch.records.map each ∧
      report' = { report with pids := Life.batch.records.reverse.map each } := by
  have independent : Independent Life.machine id := Manner.machine_independent fun _ => Life.manner
  have perm := (List.reverse_perm Life.batch.records).symm
  have distinct : (Life.batch.records.map (·.pid)).Nodup := by decide
  exact ⟨independent, perm, distinct,
    terminate_perm independent {} Life.batch perm distinct Life.start⟩

end Straggler
