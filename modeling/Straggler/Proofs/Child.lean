import Straggler.Proofs.Endings
import Straggler.Proofs.Protection
import Straggler.Proofs.Wrapping
import Straggler.Rehearsal.Scene

/-!
# The child of a run

A run spares itself, the one that started it, and its child, whatever the table shows of them. The
one call about the child hands the signal on that tripped the trap, when the cascade is over. After
that the child is gone, whether it took the signal or not; but where the cascade has failed, the
child is left as it is.
-/

namespace Straggler

set_option autoImplicit false

variable {σ : Type}

/-! ## An interrupted run -/

namespace Rehearsal

def Stage.bare : Stage where
  workplace := {
    files := { nodes := [(["bin"], .directory), (["bin", "sleep"], .file .empty true)] }
    searchPath := ["/bin"] }

/-- A signal is waiting when the command is run, and the table shows the child and the caller under
a name that a category matches. -/
def Scene.interrupted (table : Table) (forwarding : Option Delivery) : Scene where
  table := table
  stage := .bare
  signals := [.int]
  childShownAs := some "pytest"
  callerShownAs := some "pytest"
  forwarding := forwarding

def pytestSupervisor : Supervisor where
  settings := { categories := [⟨"generic", .substring "pytest"⟩], policy := {} }

end Rehearsal

theorem Started.of_spawn {h : Host σ} {command : List String} {child : Pid} {s : σ}
    (named : command ≠ []) (spawned : (h.spawn command s).1 = .ok child) :
    Started h command s child (h.arrivals child (h.spawn command s).2).1
      (h.arrivals child (h.spawn command s).2).2 :=
  ⟨named, _, Prod.ext spawned rfl, rfl⟩

theorem Rehearsal.Scene.interrupted_started (table : Table) (forwarding : Option Delivery) :
    ∃ a t, Started (Scene.host 2 1) ["sleep", "5"] (.interrupted table forwarding) 3 a t ∧
      a.deciding = .trapped .int (.signalReceived .int) := by
  have named : ["sleep", "5"] ≠ [] := by decide
  have spawned : (Stage.bare.start ["sleep", "5"]).1 = .ok 3 := by decide +kernel
  exact ⟨_, _, .of_spawn named spawned, rfl⟩

/-! ## What is spared -/

theorem Host.spared_contains (h : Host σ) (child : Pid) {pid : Pid}
    (own : pid ∈ [h.self, h.parent, child]) : (h.spared child).contains pid := by
  have pids : (h.spared child).pids = [h.self, h.parent, child].reverse := rfl
  rw [Protected.contains, pids, List.contains_iff_mem]
  exact List.mem_reverse.mpr own

/-- What a run does about its child. Either nothing, or, where a signal tripped the trap and the
whole cascade succeeded with the child still there at its end, the one call that hands on that
signal. -/
inductive Treats (sv : Supervisor) (h : Host σ) (child : Pid) (s : σ) :
    Deciding → List Call → Prop
  | alone (d : Deciding) (calls : List Call) : Untouched child calls → Treats sv h child s d calls
  | handedOn (signal : Signal) (trap : Trap) (cascade : CascadeReport) (first : List Call) (t : σ)
      (delivery : Delivery) :
      watched (sv.cascade h.toMachine.recorded (h.spared child)).run s =
        ((.ok cascade, first), t) →
      (h.hasExited child t).1 = false → Untouched child first →
      Treats sv h child s (.trapped signal trap) (first ++ [.send child signal delivery])

/-- How a run spares its own: the caller and its parent, which the child is none of, are not
touched, no report names one of the three, and the child gets no other signal than the trapped
one. -/
structure Spares (sv : Supervisor) (h : Host σ) (child : Pid) (s : σ) (d : Deciding)
    (answer : Except Error WrapOutcome) (calls : List Call) : Prop where
  callers : ∀ pid ∈ [h.self, h.parent], pid ≠ child → Untouched pid calls
  unnamed : ∀ outcome cascade, answer = .ok outcome → outcome.cascade = some cascade →
    ∀ pid ∈ [h.self, h.parent, child], cascade.Omits pid
  child : Treats sv h child s d calls

section Spares

variable {sv : Supervisor} {h : Host σ} {child pid : Pid} {s t : σ} {calls : List Call}

theorem HandedOn.untouched {signal : Signal} (handed : HandedOn h child signal s calls)
    (ne : pid ≠ child) : Untouched pid calls := by
  cases handed with
  | exited => exact List.forall_mem_nil _
  | sent delivery => exact List.forall_mem_singleton.mpr fun same => ne (Option.some.inj same).symm

theorem cascade_untouched {answer : Except Error CascadeReport}
    (swept : watched (sv.cascade h.toMachine.recorded (h.spared child)).run s =
      ((answer, calls), t)) (own : pid ∈ [h.self, h.parent, child]) : Untouched pid calls :=
  (Supervisor.cascaded_of_watched swept).1.untouched (h.spared_contains child own)

theorem cascade_omits {cascade : CascadeReport}
    (swept : watched (sv.cascade h.toMachine.recorded (h.spared child)).run s =
      ((.ok cascade, calls), t)) (own : pid ∈ [h.self, h.parent, child]) : cascade.Omits pid :=
  (Supervisor.cascaded_of_watched swept).1.omits (h.spared_contains child own)

variable {sweepOnExit : Bool} {d : Deciding} {answer : Except Error WrapOutcome}

theorem Decided.untouched (decided : Decided sv h child sweepOnExit s d answer calls)
    (own : pid ∈ [h.self, h.parent]) (ne : pid ≠ child) : Untouched pid calls := by
  have own : pid ∈ [h.self, h.parent, child] := List.mem_append_left [child] own
  cases decided with
  | exited => exact List.forall_mem_nil _
  | swept _ _ _ _ _ swept => exact cascade_untouched swept own
  | failed _ _ _ _ _ failed => exact cascade_untouched failed own
  | cleaned _ _ _ _ _ _ done handed =>
    exact (cascade_untouched done own).append (handed.untouched ne)

theorem Decided.omits {outcome : WrapOutcome} {cascade : CascadeReport}
    (decided : Decided sv h child sweepOnExit s d (.ok outcome) calls)
    (reported : outcome.cascade = some cascade) (own : pid ∈ [h.self, h.parent, child]) :
    cascade.Omits pid := by
  cases decided with
  | exited => cases reported
  | swept _ swept _ _ _ hswept =>
    cases swept with
    | error e => cases reported
    | ok r =>
      cases reported
      exact cascade_omits hswept own
  | cleaned _ _ _ _ _ _ done _ =>
    cases reported
    exact cascade_omits done own

theorem Decided.treats (decided : Decided sv h child sweepOnExit s d answer calls) :
    Treats sv h child s d calls := by
  have own : child ∈ [h.self, h.parent, child] :=
    List.mem_append_right [h.self, h.parent] List.mem_cons_self
  cases decided with
  | exited => exact .alone _ _ (List.forall_mem_nil _)
  | swept _ _ _ _ _ swept => exact .alone _ _ (cascade_untouched swept own)
  | failed _ _ _ _ _ failed => exact .alone _ _ (cascade_untouched failed own)
  | cleaned signal trap cascade first _ t done handed =>
    have untouched := cascade_untouched done own
    cases handed with
    | exited =>
      rw [List.append_nil]
      exact .alone _ _ untouched
    | sent delivery there =>
      exact .handedOn signal trap cascade first t delivery done there untouched

end Spares

/-- Whatever the table shows of them and however signals and the child's exit come, a run spares
the caller, its parent and the child. -/
theorem Supervisor.wrap_spares_own (sv : Supervisor) {h : Host σ} {command : List String} {s t : σ}
    {child : Pid} {a : Arrivals} (started : Started h command s child a t) (sweepOnExit : Bool) :
    ∃ answer calls u, watched (sv.wrap h.recorded command sweepOnExit).run s =
        ((answer, calls), u) ∧
      (sv.wrap h command sweepOnExit).run s = (answer, u) ∧
      Spares sv h child t a.deciding answer calls := by
  obtain ⟨answer, calls, u, hwatched, plain, decided⟩ := sv.wrap_decided started sweepOnExit
  refine ⟨answer, calls, u, hwatched, plain, ?_, ?_, decided.treats⟩
  · exact fun pid own ne => decided.untouched own ne
  · rintro outcome cascade rfl reported pid own
    exact decided.omits reported own

/-- The caller, its parent and the child are all shown under a name that is matched. -/
theorem Supervisor.wrap_spares_own_shown :
    ∃ a t, Started (Rehearsal.Scene.host 2 1) ["sleep", "5"]
        (.interrupted { actors := [{ pid := 40, command := "pytest" }] } none) 3 a t ∧
      ∃ answer calls u,
        watched (Rehearsal.pytestSupervisor.wrap (Rehearsal.Scene.host 2 1).recorded
          ["sleep", "5"] false).run
          (.interrupted { actors := [{ pid := 40, command := "pytest" }] } none) =
            ((answer, calls), u) ∧
        (Rehearsal.pytestSupervisor.wrap (Rehearsal.Scene.host 2 1) ["sleep", "5"] false).run
          (.interrupted { actors := [{ pid := 40, command := "pytest" }] } none) = (answer, u) ∧
        Spares Rehearsal.pytestSupervisor (Rehearsal.Scene.host 2 1) 3 t a.deciding answer
          calls := by
  obtain ⟨a, t, started, _⟩ := Rehearsal.Scene.interrupted_started
    { actors := [{ pid := 40, command := "pytest" }] } none
  exact ⟨a, t, started, wrap_spares_own Rehearsal.pytestSupervisor started false⟩

/-! ## What becomes of the child -/

/-- What the host says of a child is true of it, and a child that is killed has ended. -/
structure Host.Faithful (h : Host σ) (ended : Pid → σ → Prop) : Prop where
  hasExited : ∀ child s, (h.hasExited child s).1 = true → ended child (h.hasExited child s).2
  waitFor : ∀ child ms s, (h.waitFor child ms s).1 = true → ended child (h.waitFor child ms s).2
  forceKill : ∀ child s, ended child (h.forceKill child s).2

namespace Rehearsal

/-- Who is marked as collected is not found any more. -/
theorem Stage.find?_update_collected (g : Stage) (pid : Pid) {f : Child → Child}
    (collects : ∀ c, (f c).collected = true) : (g.update pid f).find? pid = none := by
  refine List.find?_eq_none.mpr fun c hc found => ?_
  obtain ⟨c, _, rfl⟩ := List.mem_map.mp hc
  rw [Bool.and_eq_true, beq_iff_eq] at found
  by_cases same : c.pid = pid
  · rw [if_pos same, collects] at found
    cases found.2
  · rw [if_neg same] at found
    exact same found.1

theorem Stage.isAlive_of_find? {g : Stage} {pid : Pid} (none : g.find? pid = none) :
    g.isAlive pid = false := by
  rw [isAlive, none]
  rfl

theorem Stage.collect_ends (g : Stage) (pid : Pid) (ended : (g.collect pid).1 = true) :
    (g.collect pid).2.isAlive pid = false := by
  unfold collect at ended ⊢
  cases found : g.find? pid with
  | none => exact isAlive_of_find? found
  | some c =>
    cases dead : c.hasEnded with
    | true =>
      simp only [dead, if_true]
      exact isAlive_of_find? (g.find?_update_collected pid fun _ => rfl)
    | false => simp [found, dead] at ended

theorem Stage.kill_ends (g : Stage) (pid : Pid) : (g.kill pid).isAlive pid = false :=
  isAlive_of_find? (g.find?_update_collected pid fun _ => rfl)

theorem Scene.host_faithful (self parent : Pid) :
    (Scene.host self parent).Faithful fun pid c => c.stage.isAlive pid = false where
  hasExited := fun pid c => c.stage.collect_ends pid
  waitFor := fun pid ms c => (c.stage.pass ms).collect_ends pid
  forceKill := fun pid c => c.stage.kill_ends pid

end Rehearsal

/-- How a run that a signal ended parts from its child, where its cascade came to an answer and
left a state. -/
structure Parts (ended : Pid → σ → Prop) (child : Pid) (signal : Signal)
    (swept : Except Error CascadeReport) (left : σ) (answer : Except Error WrapOutcome) (u : σ) :
    Prop where
  done : ∀ cascade, swept = .ok cascade → answer = .ok (.ofSignal child signal cascade)
  failed : ∀ e, swept = .error e → answer = .error e ∧ u = left
  ended_iff : ended child u ↔ (∃ cascade, swept = .ok cascade) ∨ ended child left

namespace Supervisor

variable {h : Host σ} {ended : Pid → σ → Prop}

theorem see_ends (sv : Supervisor) (faithful : h.Faithful ended) (child : Pid) (signal : Signal)
    (s : σ) : Ends (sv.see h child signal) s fun _ t => ended child t := by
  have sent : Ends (h.send child signal) s fun _ _ => True := trivial
  -- It makes no difference what became of the signal.
  refine sent.bind fun _ t _ => ?_
  have waited : Ends (h.waitFor child sv.settings.policy.graceWindow) t fun inTime u =>
      inTime = true → ended child u := faithful.waitFor child _ t
  refine waited.bind fun inTime u gone => ?_
  cases inTime with
  | true => exact gone rfl
  | false => exact faithful.forceKill child u

/-- Whatever the child does with the signal that is handed on to it, it has ended afterwards. -/
theorem handOn_ends (sv : Supervisor) (faithful : h.Faithful ended) (child : Pid) (signal : Signal)
    (s : σ) : Ends (sv.handOn h child signal) s fun _ t => ended child t := by
  unfold Ends
  rw [handOn_eq]
  split
  · exact faithful.hasExited child s ‹_›
  · exact sv.see_ends faithful child signal _

/-- After a trapped signal and a cascade that succeeds the child has ended when the run returns. A
cascade that fails is the end of the run, with the child in whatever state it is then. -/
theorem wrap_parts_from_child (sv : Supervisor) (faithful : h.Faithful ended)
    {command : List String} {s t : σ} {child : Pid} {a : Arrivals} {signal : Signal} {trap : Trap}
    (started : Started h command s child a t) (trapped : a.deciding = .trapped signal trap)
    (sweepOnExit : Bool) :
    ∃ answer u swept v, (sv.wrap h command sweepOnExit).run s = (answer, u) ∧
      (sv.cascade h.toMachine (h.spared child)).run t = (swept, v) ∧
      Parts ended child signal swept v answer u := by
  have run := sv.wrap_started started sweepOnExit
  rw [trapped] at run
  rcases hswept : (sv.cascade h.toMachine (h.spared child)).run t with ⟨e | cascade, v⟩
  · -- The error ends the run before the child is looked at.
    refine ⟨.error e, v, .error e, v, run.trans (cleanUp_of_error hswept), rfl, nofun, ?_, ?_⟩
    · rintro e' ⟨⟩
      exact ⟨rfl, rfl⟩
    · exact ⟨.inr, fun gone => gone.resolve_left nofun⟩
  · refine ⟨_, _, .ok cascade, v, run.trans (cleanUp_of_ok hswept), rfl, ?_, nofun, ?_⟩
    · rintro cascade' ⟨⟩
      rfl
    · exact ⟨fun _ => .inl ⟨cascade, rfl⟩, fun _ => sv.handOn_ends faithful child signal v⟩

/-- The signal cannot be handed on, and the child is killed when its time is over. -/
theorem wrap_parts_from_child_refused :
    (Rehearsal.Scene.host 2 1).Faithful (fun pid c => c.stage.isAlive pid = false) ∧
    ∃ a t, Started (Rehearsal.Scene.host 2 1) ["sleep", "5"]
        (.interrupted {} (some (.failed "refused"))) 3 a t ∧
      a.deciding = .trapped .int (.signalReceived .int) ∧
      ∃ answer u swept v,
        (Rehearsal.pytestSupervisor.wrap (Rehearsal.Scene.host 2 1) ["sleep", "5"] false).run
          (.interrupted {} (some (.failed "refused"))) = (answer, u) ∧
        (Rehearsal.pytestSupervisor.cascade (Rehearsal.Scene.host 2 1).toMachine
          ((Rehearsal.Scene.host 2 1).spared 3)).run t = (swept, v) ∧
        Parts (fun pid c => c.stage.isAlive pid = false) 3 .int swept v answer u := by
  have faithful := Rehearsal.Scene.host_faithful 2 1
  obtain ⟨a, t, started, trapped⟩ :=
    Rehearsal.Scene.interrupted_started {} (some (.failed "refused"))
  exact ⟨faithful, a, t, started, trapped,
    wrap_parts_from_child Rehearsal.pytestSupervisor faithful started trapped false⟩

/-- Where the table cannot be read, the child lives on after the run: a trapped signal is not always
the end of it. -/
theorem wrap_leaves_child_behind :
    ¬ ∀ (σ : Type) (sv : Supervisor) (h : Host σ) (ended : Pid → σ → Prop) (command : List String)
      (s t : σ) (child : Pid) (a : Arrivals) (signal : Signal) (trap : Trap) (sweepOnExit : Bool),
      h.Faithful ended → Started h command s child a t → a.deciding = .trapped signal trap →
      ended child ((sv.wrap h command sweepOnExit).run s).2 := by
  intro never
  obtain ⟨a, t, started, trapped⟩ :=
    Rehearsal.Scene.interrupted_started { unreadable := some (0, "gone") } none
  have gone := never _ Rehearsal.pytestSupervisor _ _ _ _ t 3 a .int _ false
    (Rehearsal.Scene.host_faithful 2 1) started trapped
  have alive : ((Rehearsal.pytestSupervisor.wrap (Rehearsal.Scene.host 2 1) ["sleep", "5"]
      false).run (.interrupted { unreadable := some (0, "gone") } none)).2.stage.isAlive 3 =
        true := by
    decide +kernel
  rw [alive] at gone
  cases gone

end Supervisor

end Straggler
