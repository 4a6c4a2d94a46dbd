import Mathlib.Data.List.Nodup
import Straggler.Proofs.Cleanup
import Straggler.Proofs.Exactness

/-!
# Who is handled by which category

Categories may overlap in any way, and nothing takes a process that one of them has handled out of
the later ones. Yet in a world a process is handled by the first category that it matches and by no
other: whatever became of it there, it has left the world when the next category reads the table.
-/

namespace Straggler

set_option autoImplicit false

variable {σ : Type}

/-- Why a category handles a process: it was there from the start, it may be touched, the category
matches it and no category before does. -/
structure HandledFirst (population : Population) (p : Protected) (before : List Category)
    (c : Category) (r : Record) : Prop where
  there : population r.pid = some r.commandLine
  unprotected : p.contains r.pid = false
  matched : c.rule.isMatch r.commandLine = true
  first : ∀ earlier ∈ before, earlier.rule.isMatch r.commandLine = false

/-- Where there is no category before, it only counts who is there. -/
theorem handledFirst_nil {population : Population} {p : Protected} {c : Category} {r : Record} :
    HandledFirst population p [] c r ↔ population r.pid = some r.commandLine ∧
      p.contains r.pid = false ∧ c.rule.isMatch r.commandLine = true := by
  constructor
  · intro h
    exact ⟨h.there, h.unprotected, h.matched⟩
  · rintro ⟨there, unprotected, matched⟩
    exact ⟨there, unprotected, matched, List.forall_mem_nil _⟩

/-- What one category does to the world. It reports who is there for it to handle, and none of
them is there after it. -/
structure Handles (m : Machine σ) (settings : Settings) (alive : σ → Population) (p : Protected)
    (c : Category) (s : σ) (report : CategoryReport) (t : σ) : Prop where
  swept : (Supervisor.sweep { settings } m p c).run s = (.ok report, t)
  shrinks : Shrinks (alive s) (alive t)
  cleared : Cleared p c (alive t)
  listed : ∀ r, r ∈ report.discovered ↔ HandledFirst (alive s) p [] c r
  gone : ∀ r ∈ report.discovered, alive t r.pid = none
  ascending : report.discovered.Pairwise (·.pid < ·.pid)

/-- What a category does in a cascade from the state `s` to `t`, where it reads the table in the
state `u`. Whom it matches first it lists, unless they are gone by then, and those that it lists
are signaled and end. -/
structure HandlesFirst (settings : Settings) (alive : σ → Population) (p : Protected)
    (before : List Category) (c : Category) (s u t : σ) (report : CategoryReport)
    (calls : List Call) : Prop where
  listed : ∀ r, r ∈ report.discovered ↔ alive u r.pid = some r.commandLine ∧
    p.contains r.pid = false ∧ c.rule.isMatch r.commandLine = true
  first : ∀ r ∈ report.discovered, HandledFirst (alive s) p before c r
  handled : ∀ r, HandledFirst (alive s) p before c r → r ∈ report.discovered ∨ alive u r.pid = none
  targeted : report.targeted = report.discovered.map (·.pid)
  signaled : ∀ r ∈ report.discovered,
    ∃ delivery, .send r.pid settings.policy.graceSignal delivery ∈ calls
  gone : ∀ r ∈ report.discovered, alive t r.pid = none

def Call.receiver? (signal : Signal) : Call → Option Pid
  | .send pid sent _ => if sent = signal then some pid else none
  | .snapshot _ | .probe _ _ | .sleep _ => none

namespace World

variable {m : Machine σ} {settings : Settings} {alive : σ → Population}

theorem sweep_handles (w : World m settings.policy.killSignal alive) (p : Protected) (c : Category)
    (s : σ) :
    Succeeds (Supervisor.sweep { settings } m p c) s (Handles m settings alive p c s) := by
  have lists : Succeeds (Supervisor.sweep { settings } m p c) s fun report t =>
      (∀ r, r ∈ report.discovered ↔ HandledFirst (alive s) p [] c r) ∧
      (∀ r ∈ report.discovered, alive t r.pid = none) ∧
      report.discovered.Pairwise (·.pid < ·.pid) := by
    rw [Supervisor.sweep_eq]
    refine (w.snapshot_succeeds s).bind fun snapshot t ⟨_, listed⟩ => ?_
    refine (w.escalate_succeeds (c.plan p snapshot) t).bind fun _ u h => ?_
    obtain ⟨report, rfl, _, ended, _⟩ := h
    refine .pure ⟨fun r => (mem_plan listed r).trans ?_, ended, c.plan_ascending p snapshot⟩
    rw [handledFirst_nil, and_comm (a := p.contains r.pid = false)]
  obtain ⟨report, t, hrun, ⟨shrinks, cleared, _⟩, listed, gone, ascending⟩ :=
    (w.sweep_succeeds p c s).and lists
  exact ⟨report, t, hrun, hrun, shrinks, cleared, listed, gone, ascending⟩

end World

/-! ## One category after the other -/

section Chain

variable {m : Machine σ} {settings : Settings} {alive : σ → Population} {p : Protected}
variable {cs : List Category} {reports : List CategoryReport} {s t : σ}

theorem Chained.shrinks (h : Chained (Handles m settings alive p) cs s reports t) :
    Shrinks (alive s) (alive t) := by
  induction h with
  | nil => exact .refl _
  | cons handles _ ih => exact handles.shrinks.trans ih

/-- Who is listed by any of the categories was there before all of them. -/
theorem Chained.there (h : Chained (Handles m settings alive p) cs s reports t) :
    ∀ report ∈ reports, ∀ r ∈ report.discovered, alive s r.pid = some r.commandLine := by
  induction h with
  | nil => exact List.forall_mem_nil _
  | cons handles _ ih =>
    refine List.forall_mem_cons.mpr ⟨?_, ?_⟩
    · intro r hr
      exact ((handles.listed r).mp hr).there
    · intro report hreport r hr
      exact handles.shrinks r.pid r.commandLine (ih report hreport r hr)

theorem Chained.handledFirst (h : Chained (Handles m settings alive p) cs s reports t) {i : Nat}
    {c : Category} {report : CategoryReport} (hc : cs[i]? = some c)
    (hreport : reports[i]? = some report) :
    ∀ r ∈ report.discovered, HandledFirst (alive s) p (cs.take i) c r := by
  induction h generalizing i with
  | nil => cases hc
  | @cons c₀ _ cs _ _ _ _ handles _ ih =>
    intro r hr
    cases i with
    | zero =>
      cases hc
      cases hreport
      exact (handles.listed r).mp hr
    | succ i =>
      have later := ih hc hreport r hr
      -- The first category was cleared, and yet the process is still there.
      have unmatched : c₀.rule.isMatch r.commandLine = false :=
        handles.cleared r.pid r.commandLine later.there later.unprotected
      refine ⟨handles.shrinks _ _ later.there, later.unprotected, later.matched, ?_⟩
      rw [List.take_succ_cons]
      exact List.forall_mem_cons.mpr ⟨unmatched, later.first⟩

/-- The categories before one of them leave the state in which it reads the table. -/
theorem Chained.at (h : Chained (Handles m settings alive p) cs s reports t) {i : Nat}
    {c : Category} {report : CategoryReport} (hc : cs[i]? = some c)
    (hreport : reports[i]? = some report) :
    ∃ before u v, ((cs.take i).mapM (Supervisor.sweep { settings } m p)).run s = (.ok before, u) ∧
      Shrinks (alive s) (alive u) ∧ Handles m settings alive p c u report v ∧
      Shrinks (alive v) (alive t) := by
  induction h generalizing i with
  | nil => cases hc
  | @cons c₀ report₀ cs reports s s' t handles rest ih =>
    cases i with
    | zero =>
      cases hc
      cases hreport
      exact ⟨[], s, s', rfl, .refl _, handles, rest.shrinks⟩
    | succ i =>
      obtain ⟨before, u, v, hrun, hu, here, hv⟩ := ih hc hreport
      exact ⟨report₀ :: before, u, v, Attempt.run_mapM_cons handles.swept hrun,
        handles.shrinks.trans hu, here, hv⟩

theorem Chained.nodup (h : Chained (Handles m settings alive p) cs s reports t) :
    (reports.flatMap fun report => report.discovered.map (·.pid)).Nodup := by
  induction h with
  | nil => exact List.nodup_nil
  | @cons _ report _ reports _ _ _ handles rest ih =>
    have own : (report.discovered.map (·.pid)).Nodup := Record.nodup_pids handles.ascending
    rw [List.flatMap_cons]
    -- Whom the first category lists is gone after it, and whom a later one lists is still there.
    refine own.append ih fun pid hpid hlater => ?_
    obtain ⟨r, hr, rfl⟩ := List.mem_map.mp hpid
    obtain ⟨report', hreport', hlater⟩ := List.mem_flatMap.mp hlater
    obtain ⟨r', hr', same⟩ := List.mem_map.mp hlater
    have gone := handles.gone r hr
    rw [← same, rest.there report' hreport' r' hr'] at gone
    cases gone

end Chain

/-! ## The signals -/

section Signals

variable {sv : Supervisor} {p : Protected} {calls : List Call}

/-- Where the two signals differ, a batch sends the graceful one to each of its processes once. -/
theorem receivers_protocol {policy : Policy} (differ : policy.graceSignal ≠ policy.killSignal)
    (turns : List Turn) : (protocol policy turns).filterMap (Call.receiver? policy.graceSignal) =
      turns.map (·.record.pid) := by
  have warned : (turns.map (·.warning policy)).filterMap (Call.receiver? policy.graceSignal) =
      turns.map (·.record.pid) := by
    rw [List.filterMap_map, ← List.filterMap_eq_map]
    refine List.filterMap_congr fun turn _ => ?_
    exact if_pos rfl
  have waited : (window policy turns).filterMap (Call.receiver? policy.graceSignal) = [] := by
    unfold window
    split <;> rfl
  have settled : (turns.flatMap (·.settlement policy)).filterMap
      (Call.receiver? policy.graceSignal) = [] := by
    refine List.filterMap_eq_nil_iff.mpr fun call hcall => ?_
    obtain ⟨turn, _, hcall⟩ := List.mem_flatMap.mp hcall
    simp only [Turn.settlement, List.mem_append, Option.mem_toList, Option.map_eq_some_iff] at hcall
    rcases hcall with ⟨alive, _, rfl⟩ | ⟨kill, _, rfl⟩
    · rfl
    · exact if_neg differ.symm
  rw [protocol, List.filterMap_append, List.filterMap_append, warned, waited, settled,
    List.append_nil, List.append_nil]

theorem Swept.receivers {c : Category} {report : CategoryReport} (live : sv.dryRun = false)
    (differ : sv.settings.policy.graceSignal ≠ sv.settings.policy.killSignal)
    (h : Swept sv p c (.ok report) calls) :
    calls.filterMap (Call.receiver? sv.settings.policy.graceSignal) =
      report.discovered.map (·.pid) := by
  cases h with
  | dry snapshot dry => simp [live] at dry
  | live snapshot turns _ hrecords =>
    change (protocol _ turns).filterMap _ = ((c.plan p snapshot).records).map (·.pid)
    rw [receivers_protocol differ, ← hrecords, List.map_map]
    rfl

theorem InTurn.receivers {cs : List Category} {reports : List CategoryReport}
    (live : sv.dryRun = false)
    (differ : sv.settings.policy.graceSignal ≠ sv.settings.policy.killSignal)
    (h : InTurn (fun c r part => Swept sv p c (.ok r) part) cs reports calls) :
    calls.filterMap (Call.receiver? sv.settings.policy.graceSignal) =
      reports.flatMap fun report => report.discovered.map (·.pid) := by
  induction h with
  | nil => rfl
  | cons swept _ ih =>
    rw [List.filterMap_append, List.flatMap_cons, swept.receivers live differ, ih]

theorem Swept.signaled {c : Category} {report : CategoryReport} (live : sv.dryRun = false)
    (h : Swept sv p c (.ok report) calls) : ∀ r ∈ report.discovered,
      ∃ delivery, .send r.pid sv.settings.policy.graceSignal delivery ∈ calls := by
  cases h with
  | dry snapshot dry => simp [live] at dry
  | live snapshot turns _ hrecords =>
    intro r hr
    have planned : r ∈ turns.map (·.record) := hrecords ▸ hr
    obtain ⟨turn, hturn, rfl⟩ := List.mem_map.mp planned
    refine ⟨turn.graceful, List.mem_cons_of_mem _ ?_⟩
    have warned : turn.warning sv.settings.policy ∈ turns.map (·.warning sv.settings.policy) :=
      List.mem_map_of_mem hturn
    exact List.mem_append_left _ (List.mem_append_left _ warned)

theorem InTurn.signaled {cs : List Category} {reports : List CategoryReport}
    (live : sv.dryRun = false)
    (h : InTurn (fun c r part => Swept sv p c (.ok r) part) cs reports calls) :
    ∀ report ∈ reports, ∀ r ∈ report.discovered,
      ∃ delivery, .send r.pid sv.settings.policy.graceSignal delivery ∈ calls := by
  induction h with
  | nil => exact List.forall_mem_nil _
  | cons swept _ ih =>
    refine List.forall_mem_cons.mpr ⟨?_, ?_⟩
    · intro r hr
      obtain ⟨delivery, sent⟩ := swept.signaled live r hr
      exact ⟨delivery, List.mem_append_left _ sent⟩
    · intro report hreport r hr
      obtain ⟨delivery, sent⟩ := ih report hreport r hr
      exact ⟨delivery, List.mem_append_right _ sent⟩

end Signals

namespace World

variable {m : Machine σ} {settings : Settings} {alive : σ → Population}

theorem cascade_chained (w : World m settings.policy.killSignal alive) (p : Protected) (s : σ) :
    Succeeds (Supervisor.cascade { settings } m p) s fun cascade t =>
      Chained (Handles m settings alive p) settings.categories s cascade.categories t := by
  have swept := Succeeds.chained (w.sweep_handles p) settings.categories s
  exact swept.bind fun reports t chained => .pure chained

/-- A live cascade handles each process by the first category that it matches, and no process
twice. -/
theorem cascade_handles_by_first_match (w : World m settings.policy.killSignal alive)
    (p : Protected) (s : σ) :
    ∃ cascade calls t,
      watched (Supervisor.cascade { settings } m.recorded p).run s = ((.ok cascade, calls), t) ∧
      (Supervisor.cascade { settings } m p).run s = (.ok cascade, t) ∧
      cascade.targetedPids.Nodup ∧
      (settings.policy.graceSignal ≠ settings.policy.killSignal →
        calls.filterMap (Call.receiver? settings.policy.graceSignal) = cascade.targetedPids) ∧
      cascade.categories.length = settings.categories.length ∧
      ∀ i c report, settings.categories[i]? = some c → cascade.categories[i]? = some report →
        ∃ before u, ((Supervisor.upTo { settings } i).cascade m p).run s = (.ok before, u) ∧
          HandlesFirst settings alive p (settings.categories.take i) c s u t report calls := by
  obtain ⟨cascade, t, hrun, chained⟩ := w.cascade_chained p s
  obtain ⟨calls, hwatched, cascaded⟩ := (Supervisor.cascade_makes { settings } m p).watched_eq s
  rw [hrun] at hwatched cascaded
  refine ⟨cascade, calls, t, hwatched, hrun, ?_, ?_, chained.length_eq, ?_⟩
  · rw [cascaded.targetedPids_eq]
    exact chained.nodup
  · intro differ
    rw [cascaded.targetedPids_eq]
    exact cascaded.inTurn.receivers rfl differ
  · intro i c report hc hreport
    obtain ⟨before, u, v, hbefore, hu, handles, hv⟩ := chained.at hc hreport
    have reported := List.mem_of_getElem? hreport
    refine ⟨{ categories := before }, u, Attempt.run_bind_of_ok hbefore, ?_⟩
    refine ⟨?_, chained.handledFirst hc hreport, ?_, cascaded.targeted_eq report reported,
      cascaded.inTurn.signaled rfl report reported, ?_⟩
    · intro r
      rw [handles.listed, handledFirst_nil]
    · intro r first
      cases there : alive u r.pid with
      | none => exact .inr rfl
      | some line =>
        obtain rfl : line = r.commandLine :=
          Option.some.inj ((hu r.pid line there).symm.trans first.there)
        refine .inl ((handles.listed r).mpr (handledFirst_nil.mpr ?_))
        exact ⟨there, first.unprotected, first.matched⟩
    · intro r hr
      exact hv.none (handles.gone r hr)

def overlapping : Settings where
  categories := [⟨"worker", .substring "worker"⟩, ⟨"generic", .substring "pytest"⟩]
  policy := {}

/-- Processes that the one, the other or both of the categories match. -/
def contested : Snapshot where
  records := #[⟨40, "pytest worker"⟩, ⟨41, "pytest tests"⟩, ⟨42, "worker"⟩, ⟨43, "pytest worker"⟩,
    ⟨44, "pytest worker"⟩]
  ascending := by decide

/-- Processes that take the graceful signal in all four ways, one of them protected. Those that both
categories match are handled by the first, and each process gets one graceful signal. -/
theorem cascade_handles_by_first_match_contested :
    World (Snapshot.machine .kill) .kill Snapshot.population ∧
    ∃ cascade calls t,
      watched (Supervisor.cascade { settings := overlapping } (Snapshot.machine .kill).recorded
        { pids := [44] }).run contested = ((.ok cascade, calls), t) ∧
      cascade.categories.map (·.targeted) = [[40, 42, 43], [41]] ∧
      calls.filterMap (Call.receiver? .term) = [40, 42, 43, 41] ∧
      ∀ i c report, overlapping.categories[i]? = some c → cascade.categories[i]? = some report →
        ∃ before u, ((Supervisor.upTo { settings := overlapping } i).cascade
            (Snapshot.machine .kill) { pids := [44] }).run contested = (.ok before, u) ∧
          HandlesFirst overlapping Snapshot.population { pids := [44] }
            (overlapping.categories.take i) c contested u t report calls := by
  have world : World (Snapshot.machine .kill) overlapping.policy.killSignal Snapshot.population :=
    Snapshot.machine_world .kill
  obtain ⟨cascade, calls, t, hwatched, -, -, sent, -, handled⟩ :=
    cascade_handles_by_first_match world { pids := [44] } contested
  have shown : (watched (Supervisor.cascade { settings := overlapping }
      (Snapshot.machine .kill).recorded { pids := [44] }).run contested).1.1.map
        (fun cascade => cascade.categories.map (·.targeted)) = .ok [[40, 42, 43], [41]] := by
    decide +kernel
  rw [hwatched] at shown
  have targeted : cascade.categories.map (·.targeted) = [[40, 42, 43], [41]] :=
    Except.ok.inj shown
  refine ⟨world, cascade, calls, t, hwatched, targeted, ?_, handled⟩
  refine (sent (by decide)).trans ?_
  rw [CascadeReport.targetedPids_eq_flatMap, List.flatMap_def, targeted]
  rfl

end World

end Straggler
