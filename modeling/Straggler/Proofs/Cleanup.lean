import Straggler.Proofs.Endings
import Straggler.Proofs.Supervision
import Straggler.Proofs.World

/-!
# Cleaning up

A live run in a world leaves no unprotected process that matches a category. What a batch found is
gone when the batch is over, whichever way each process went, and it stays gone while the later
categories are swept.
-/

namespace Straggler

set_option autoImplicit false

variable {σ : Type}

/-- No unprotected process matches the category. -/
def Cleared (p : Protected) (c : Category) (population : Population) : Prop :=
  ∀ pid line, population pid = some line → p.contains pid = false → c.rule.isMatch line = false

theorem Shrinks.cleared {a b : Population} {p : Protected} {c : Category} (h : Shrinks a b)
    (ha : Cleared p c a) : Cleared p c b :=
  fun pid line hb => ha pid line (h pid line hb)

/-! ## One batch -/

namespace World

variable {m : Machine σ} {policy : Policy} {alive : σ → Population}

theorem kill_ends (w : World m policy.killSignal alive) (pid : Pid) (s : σ) :
    Ends (m.send pid policy.killSignal) s fun d t => Shrinks (alive s) (alive t) ∧
      alive t pid = none ∧ (NoticesAbsence m alive → d = .sent ∨ d = .noSuchProcess) := by
  refine ⟨w.send_shrinks pid policy.killSignal s, ?_⟩
  cases h : alive s pid with
  | none =>
    have gone := (w.send_shrinks pid policy.killSignal s).none h
    exact ⟨gone, fun notices => .inr (notices pid policy.killSignal s h)⟩
  | some line =>
    obtain ⟨removed, answer⟩ := w.killed pid s (by rw [h]; rfl)
    exact ⟨removed, fun _ => answer⟩

/-- However a process is settled, it is gone afterwards. -/
theorem settle_ends (w : World m policy.killSignal alive) (r : Record) (graceful : Delivery) (s : σ)
    (absent : graceful = .noSuchProcess → alive s r.pid = none) :
    Ends (settle m policy r graceful) s fun report t => Shrinks (alive s) (alive t) ∧
      alive t r.pid = none ∧ (NoticesAbsence m alive → report.outcome.isFailure = false) := by
  unfold settle
  by_cases gone : graceful = .noSuchProcess
  · rw [if_pos gone]
    exact ⟨.refl _, absent gone, fun _ => rfl⟩
  · rw [if_neg gone]
    have probe : Ends (m.isAlive r.pid) s fun found t =>
        Shrinks (alive s) (alive t) ∧ found = (alive s r.pid).isSome :=
      ⟨w.probe_shrinks r.pid s, w.probed r.pid s⟩
    refine probe.bind fun found t ⟨hst, hfound⟩ => ?_
    cases found with
    | false =>
      have none : alive s r.pid = none := Option.not_isSome_iff_eq_none.mp (by simp [← hfound])
      exact ⟨hst, hst.none none, fun _ => rfl⟩
    | true =>
      refine (w.kill_ends r.pid t).bind fun d u ⟨htu, removed, answer⟩ => ?_
      cases d with
      | sent => exact ⟨hst.trans htu, removed, fun _ => rfl⟩
      | noSuchProcess => exact ⟨hst.trans htu, removed, fun _ => rfl⟩
      | failed reason =>
        exact ⟨hst.trans htu, removed, fun notices => by simpa using answer notices⟩

theorem warn_ends (w : World m policy.killSignal alive) (r : Record) (s : σ) :
    Ends (warn m policy r) s fun answer t => Shrinks (alive s) (alive t) ∧ answer.1 = r ∧
      (answer.2 = .noSuchProcess → alive t r.pid = none) :=
  ⟨w.send_shrinks r.pid policy.graceSignal s, rfl, w.gone r.pid policy.graceSignal s⟩

theorem pause_ends (w : World m policy.killSignal alive) (warned : List (Record × Delivery))
    (s : σ) : Ends (pause m policy warned) s fun _ t => Shrinks (alive s) (alive t) := by
  unfold pause
  split
  · exact w.sleep_shrinks policy.graceWindow s
  · exact Shrinks.refl _

/-- A process that its graceful signal did not find stays gone during the other signals. -/
theorem warnings_end (w : World m policy.killSignal alive) (records : List Record) (s : σ) :
    Ends (records.mapM (warn m policy)) s fun warned t => Shrinks (alive s) (alive t) ∧
      List.Forall₂ (fun r answer => answer.1 = r ∧
        (answer.2 = .noSuchProcess → alive t r.pid = none)) records warned :=
  Ends.mapM (fun s t => Shrinks (alive s) (alive t)) (fun _ _ => True)
    (fun r (answer : Record × Delivery) t =>
      answer.1 = r ∧ (answer.2 = .noSuchProcess → alive t r.pid = none))
    (fun s => .refl (alive s)) .trans (fun _ _ => trivial)
    (fun hst h => ⟨h.1, fun gone => hst.none (h.2 gone)⟩)
    (fun r s _ => w.warn_ends r s) (fun _ _ => trivial)

theorem settlements_end (w : World m policy.killSignal alive) (warned : List (Record × Delivery))
    (s : σ) (absent : ∀ v ∈ warned, v.2 = .noSuchProcess → alive s v.1.pid = none) :
    Ends (warned.mapM fun (r, graceful) => settle m policy r graceful) s fun reports t =>
      Shrinks (alive s) (alive t) ∧ List.Forall₂ (fun v report => alive t v.1.pid = none ∧
        (NoticesAbsence m alive → report.outcome.isFailure = false)) warned reports :=
  Ends.mapM (fun s t => Shrinks (alive s) (alive t))
    (fun (v : Record × Delivery) s => v.2 = .noSuchProcess → alive s v.1.pid = none)
    (fun (v : Record × Delivery) (report : PidReport) t => alive t v.1.pid = none ∧
      (NoticesAbsence m alive → report.outcome.isFailure = false))
    (fun s => .refl (alive s)) .trans (fun hst h gone => hst.none (h gone))
    (fun hst h => ⟨hst.none h.1, h.2⟩) (fun v s h => w.settle_ends v.1 v.2 s h) absent

theorem terminate_ends (w : World m policy.killSignal alive) (plan : Plan) (s : σ) :
    Ends (terminate m policy plan) s fun report t => Shrinks (alive s) (alive t) ∧
      (∀ r ∈ plan.records, alive t r.pid = none) ∧
      (NoticesAbsence m alive → report.failures = []) := by
  rw [terminate_eq]
  refine (w.warnings_end plan.records s).bind fun warned t ⟨hst, hwarned⟩ => ?_
  refine (w.pause_ends warned t).bind fun _ u htu => ?_
  have absent : ∀ v ∈ warned, v.2 = .noSuchProcess → alive u v.1.pid = none := by
    intro v hv gone
    obtain ⟨r, _, rfl, h⟩ := hwarned.exists_of_mem_right hv
    exact htu.none (h gone)
  refine (w.settlements_end warned u absent).bind fun reports v ⟨huv, hreports⟩ => ?_
  refine ⟨(hst.trans htu).trans huv, ?_, fun notices => ?_⟩
  · intro r hr
    obtain ⟨x, hx, rfl, _⟩ := hwarned.exists_of_mem_left hr
    obtain ⟨_, _, gone, _⟩ := hreports.exists_of_mem_left hx
    exact gone
  · refine List.filter_eq_nil_iff.mpr fun report hreport failed => ?_
    obtain ⟨_, _, _, fine⟩ := hreports.exists_of_mem_right hreport
    rw [fine notices] at failed
    cases failed

end World

/-! ## A whole run -/

namespace World

variable {m : Machine σ} {settings : Settings} {alive : σ → Population}

theorem snapshot_succeeds (w : World m settings.policy.killSignal alive) (s : σ) :
    Succeeds (ExceptT.mk m.snapshot) s fun snapshot t => Shrinks (alive s) (alive t) ∧
      ∀ r : Record, r ∈ snapshot.records ↔ alive s r.pid = some r.commandLine := by
  obtain ⟨snapshot, hsnapshot, hlisted⟩ := w.listed s
  exact ⟨snapshot, (m.snapshot s).2, Prod.ext hsnapshot rfl, w.snapshot_shrinks s, hlisted⟩

/-- The plan of a category holds every live process that matches it, unless it is protected. -/
theorem mem_plan {p : Protected} {c : Category} {snapshot : Snapshot} {population : Population}
    (listed : ∀ r : Record, r ∈ snapshot.records ↔ population r.pid = some r.commandLine)
    (r : Record) : r ∈ (c.plan p snapshot).records ↔ population r.pid = some r.commandLine ∧
      c.rule.isMatch r.commandLine = true ∧ p.contains r.pid = false := by
  rw [Category.mem_plan, listed]

theorem escalate_succeeds (w : World m settings.policy.killSignal alive) (plan : Plan) (s : σ) :
    Succeeds (Supervisor.escalate { settings } m plan) s fun termination t =>
      ∃ report, termination = some report ∧ Shrinks (alive s) (alive t) ∧
        (∀ r ∈ plan.records, alive t r.pid = none) ∧
        (NoticesAbsence m alive → report.failures = []) := by
  refine (Succeeds.lift (w.terminate_ends plan s)).bind fun report t h => ?_
  exact .pure ⟨report, rfl, h⟩

theorem sweep_succeeds (w : World m settings.policy.killSignal alive) (p : Protected) (c : Category)
    (s : σ) :
    Succeeds (Supervisor.sweep { settings } m p c) s fun report t => Shrinks (alive s) (alive t) ∧
      Cleared p c (alive t) ∧
      (NoticesAbsence m alive → ∀ r, report.termination = some r → r.failures = []) := by
  rw [Supervisor.sweep_eq]
  refine (w.snapshot_succeeds s).bind fun snapshot t ⟨hst, listed⟩ => ?_
  refine (w.escalate_succeeds (c.plan p snapshot) t).bind fun _ u h => ?_
  obtain ⟨report, rfl, htu, ended, fine⟩ := h
  refine .pure ⟨hst.trans htu, ?_, ?_⟩
  · intro pid line hline spared
    -- Who is alive after the batch was alive before it, so the table showed it.
    refine Bool.eq_false_iff.mpr fun found => ?_
    have planned : ({ pid, commandLine := line } : Record) ∈ (c.plan p snapshot).records :=
      (mem_plan listed _).mpr ⟨(hst.trans htu) pid line hline, found, spared⟩
    rw [ended _ planned] at hline
    cases hline
  · intro notices r hr
    obtain rfl := Option.some.inj hr
    exact fine notices

theorem cascade_succeeds (w : World m settings.policy.killSignal alive) (p : Protected) (s : σ) :
    Succeeds (Supervisor.cascade { settings } m p) s fun report t => Shrinks (alive s) (alive t) ∧
      (∀ c ∈ settings.categories, Cleared p c (alive t)) ∧
      (NoticesAbsence m alive → report.failures = 0) := by
  have swept : Succeeds (settings.categories.mapM (Supervisor.sweep { settings } m p)) s
      fun reports t => Shrinks (alive s) (alive t) ∧ List.Forall₂ (fun c report =>
        Cleared p c (alive t) ∧
        (NoticesAbsence m alive → ∀ r, report.termination = some r → r.failures = []))
        settings.categories reports :=
    Succeeds.mapM (fun s t => Shrinks (alive s) (alive t)) (fun _ _ => True)
      (fun c (report : CategoryReport) t => Cleared p c (alive t) ∧
        (NoticesAbsence m alive → ∀ r, report.termination = some r → r.failures = []))
      (fun s => .refl (alive s)) .trans (fun _ _ => trivial)
      (fun hst h => ⟨hst.cleared h.1, h.2⟩) (fun c s _ => w.sweep_succeeds p c s)
      (fun _ _ => trivial)
  refine swept.bind fun reports t ⟨hst, hreports⟩ => .pure ⟨hst, ?_, fun notices => ?_⟩
  · intro c hc
    obtain ⟨_, _, cleared, _⟩ := hreports.exists_of_mem_left hc
    exact cleared
  · refine List.length_eq_zero_iff.mpr (List.flatMap_eq_nil_iff.mpr fun r hr => ?_)
    obtain ⟨report, hreport, hr⟩ := List.mem_filterMap.mp hr
    obtain ⟨_, _, _, fine⟩ := hreports.exists_of_mem_right hreport
    exact fine notices r hr

/-- An audit finds nobody where every category is cleared. -/
theorem audit_succeeds (w : World m settings.policy.killSignal alive) (p : Protected) (s : σ)
    (cleared : ∀ c ∈ settings.categories, Cleared p c (alive s)) :
    Succeeds (Supervisor.audit { settings } m p) s fun report t => Shrinks (alive s) (alive t) ∧
      report = {} := by
  refine (w.snapshot_succeeds s).bind fun snapshot t ⟨hst, listed⟩ => .pure ⟨hst, ?_⟩
  have none : settings.categories.flatMap (Supervisor.survivors p snapshot) = [] := by
    refine List.flatMap_eq_nil_iff.mpr fun c hc => List.map_eq_nil_iff.mpr ?_
    refine List.eq_nil_iff_forall_not_mem.mpr fun r hr => ?_
    obtain ⟨hline, found, spared⟩ := (mem_plan listed r).mp hr
    rw [cleared c hc r.pid r.commandLine hline spared] at found
    cases found
  rw [none]

/-- A live run succeeds and cleans up: at its end no unprotected process matches a category, the
audit finds none, and no signal failed for good. -/
theorem run_cleans_up (w : World m settings.policy.killSignal alive)
    (notices : NoticesAbsence m alive) (p : Protected) (s : σ) :
    ∃ cascade audit t, (Supervisor.run { settings } m p).run s = (.ok (cascade, audit), t) ∧
      (∀ pid line, alive t pid = some line → p.contains pid = false →
        ∀ c ∈ settings.categories, c.rule.isMatch line = false) ∧
      audit.isClean ∧ audit.error = none ∧ audit.survivors = [] ∧ cascade.failures = 0 := by
  have run : Succeeds (Supervisor.run { settings } m p) s fun reports t =>
      (∀ c ∈ settings.categories, Cleared p c (alive t)) ∧ reports.2 = {} ∧
        reports.1.failures = 0 := by
    rw [Supervisor.run_eq]
    refine (w.cascade_succeeds p s).bind fun cascade t ⟨_, cleared, fine⟩ => ?_
    obtain ⟨audit, u, hrun, htu, rfl⟩ := w.audit_succeeds p t cleared
    have audited : Ends (Supervisor.audit { settings } m p).run t fun answer v =>
        answer = .ok {} ∧ v = u := by
      unfold Ends
      rw [hrun]
      exact ⟨rfl, rfl⟩
    refine (Succeeds.lift audited).bind fun answer v h => ?_
    obtain ⟨rfl, rfl⟩ := h
    exact .pure ⟨fun c hc => htu.cleared (cleared c hc), rfl, fine notices⟩
  obtain ⟨⟨cascade, audit⟩, t, hrun, cleared, haudit, fine⟩ := run
  obtain rfl : audit = {} := haudit
  refine ⟨cascade, {}, t, hrun, ?_, rfl, rfl, rfl, fine⟩
  exact fun pid line hline spared c hc => cleared c hc pid line hline spared

/-- Processes that take the graceful signal in all four ways, one protected, one that matches no
category and some that match both. -/
theorem run_cleans_up_overlapping :
    World (Snapshot.machine .kill) .kill Snapshot.population ∧
    NoticesAbsence (Snapshot.machine .kill) Snapshot.population ∧
    ∃ cascade audit t,
      (Supervisor.run
        { settings := {
            categories := [⟨"worker", .substring "worker"⟩, ⟨"generic", .substring "pytest"⟩]
            policy := {} } }
        (Snapshot.machine .kill) { pids := [44] }).run
        (.ofRecords [⟨40, "pytest worker"⟩, ⟨41, "pytest tests"⟩, ⟨42, "worker"⟩,
          ⟨43, "pytest worker"⟩, ⟨44, "pytest worker"⟩, ⟨45, "sshd"⟩]) =
        (.ok (cascade, audit), t) ∧
      (∀ pid line, t.population pid = some line →
        ({ pids := [44] } : Protected).contains pid = false →
        ∀ c ∈ ([⟨"worker", .substring "worker"⟩, ⟨"generic", .substring "pytest"⟩] : List Category),
          c.rule.isMatch line = false) ∧
      audit.isClean ∧ audit.error = none ∧ audit.survivors = [] ∧ cascade.failures = 0 :=
  ⟨Snapshot.machine_world .kill, Snapshot.machine_noticesAbsence .kill,
    run_cleans_up (Snapshot.machine_world .kill) (Snapshot.machine_noticesAbsence .kill) _ _⟩

end World

end Straggler
