import Straggler.Proofs.Child

/-!
# The verdict of a run

What a run tells of its command, apart from what it cleaned up: the exit code, the signal that
ended it and the state of the trap. The verdict follows from the deciding event alone. A sweep after
an exit never changes it, whether it finds processes, cannot end them or cannot read the table; and
where a signal decides, the cascade that is made in any case does not change it either.
-/

namespace Straggler

set_option autoImplicit false

variable {σ : Type}

structure Verdict where
  exitCode : Nat
  trapped : Option Signal
  state : Trap
  deriving DecidableEq, Repr

def WrapOutcome.verdict (o : WrapOutcome) : Verdict where
  exitCode := o.exitCode
  trapped := o.trapped
  state := o.state

def Deciding.verdict : Deciding → Verdict
  | .exited e => { exitCode := e.exitCode, trapped := none, state := .exited e.exitCode }
  | .trapped s _ =>
    { exitCode := 128 + s.number, trapped := some s, state := .exited (128 + s.number : Nat) }

/-- How the parts of an outcome hang together, and with the child's exit if it came in time. -/
structure WrapOutcome.Consistent (o : WrapOutcome) (a : Arrivals) : Prop where
  state : o.state = .exited o.exitCode
  interrupted : ∀ s, o.trapped = some s → o.exitCode = 128 + s.number ∧ o.cascade.isSome
  completed : o.trapped = none →
    ∃ e, .exit e ∈ a.events ∧ a.deciding = .exited e ∧ o.exitCode = e.exitCode
  status : ∀ w, a.deciding = .exited (.status w) → o.exitCode = w.exitCode

/-! ## From the deciding event -/

namespace Decided

variable {sv : Supervisor} {h : Host σ} {child : Pid} {sweepOnExit : Bool} {s : σ} {d : Deciding}
variable {outcome : WrapOutcome} {calls : List Call}

theorem verdict_eq (decided : Decided sv h child sweepOnExit s d (.ok outcome) calls) :
    outcome.verdict = d.verdict := by
  cases decided <;> rfl

theorem consistent {a : Arrivals}
    (decided : Decided sv h child sweepOnExit s a.deciding (.ok outcome) calls) :
    outcome.Consistent a := by
  have decides := Awaits.deciding a
  generalize hd : a.deciding = d at decided decides
  cases decided with
  | exited e | swept e =>
    refine ⟨rfl, nofun, fun _ => ⟨e, decides.mem_of_exited, hd, rfl⟩, ?_⟩
    intro w hw
    cases hd.symm.trans hw
    rfl
  | cleaned signal trap =>
    refine ⟨rfl, ?_, nofun, fun w hw => nomatch hd.symm.trans hw⟩
    rintro s ⟨⟩
    exact ⟨rfl, rfl⟩

end Decided

/-! ## With a sweep and without one -/

/-- All that a sweep after the child's exit adds to an outcome is its report, if it has one. -/
structure AddsReport (plain swept : WrapOutcome) (answer : Except Error CascadeReport) : Prop where
  verdict : swept.verdict = plain.verdict
  unswept : plain.cascade = none
  reported : ∀ cascade, answer = .ok cascade → swept.cascade = some cascade
  failed : ∀ e, answer = .error e → swept.cascade = none

theorem AddsReport.ofExit (child : Pid) (e : Ending) (answer : Except Error CascadeReport) :
    AddsReport (.ofExit child e none) (.ofExit child e answer.toOption) answer where
  verdict := rfl
  unswept := rfl
  reported := by
    rintro cascade rfl
    rfl
  failed := by
    rintro e rfl
    rfl

namespace Supervisor

variable {sv : Supervisor} {h : Host σ} {command : List String} {s u : σ}

theorem wrap_consistent {sweepOnExit : Bool} {outcome : WrapOutcome}
    (done : (sv.wrap h command sweepOnExit).run s = (.ok outcome, u)) :
    ∃ child a t, Started h command s child a t ∧ outcome.verdict = a.deciding.verdict ∧
      outcome.Consistent a := by
  rcases unstarted_or_started h command s with unstarted | ⟨child, a, t, started⟩
  · obtain ⟨text, cause, v, failed, _⟩ := sv.wrap_unstarted unstarted sweepOnExit
    rw [failed] at done
    cases done
  · obtain ⟨answer, calls, v, _, plain, decided⟩ := sv.wrap_decided started sweepOnExit
    rw [plain] at done
    cases done
    exact ⟨child, a, t, started, decided.verdict_eq, decided.consistent⟩

/-- After an exit there is always an outcome, also where the sweep cannot read the table. -/
theorem wrap_exited {child : Pid} {a : Arrivals} {t : σ} {e : Ending}
    (started : Started h command s child a t) (exited : a.deciding = .exited e) :
    ∃ plain swept answer v, (sv.wrap h command false).run s = (.ok plain, t) ∧
      (sv.wrap h command true).run s = (.ok swept, v) ∧
      (sv.cascade h.toMachine (h.spared child)).run t = (answer, v) ∧
      plain.verdict = a.deciding.verdict ∧ AddsReport plain swept answer := by
  have plain := sv.wrap_started started false
  have swept := sv.wrap_started started true
  rw [exited] at plain swept
  rcases hcascade : (sv.cascade h.toMachine (h.spared child)).run t with ⟨answer, v⟩
  refine ⟨_, _, answer, v, plain, swept.trans (conclude_of_cascade hcascade), rfl, ?_,
    .ofExit child e answer⟩
  rw [exited]
  rfl

/-- A signal is followed by the same cascade in both cases, and without a child there is none. -/
theorem wrap_verdict_eq (sv : Supervisor) (h : Host σ) (command : List String) (s : σ) :
    ((sv.wrap h command true).run s).1.map (·.verdict) =
      ((sv.wrap h command false).run s).1.map (·.verdict) := by
  rw [wrap_eq, wrap_eq]
  rcases spawned : (spawnChild h command).run s with ⟨e | child, t⟩
  · rw [Attempt.run_bind_of_error spawned, Attempt.run_bind_of_error spawned]
  · rw [Attempt.run_bind_of_ok spawned, Attempt.run_bind_of_ok spawned, Attempt.run_bind_lift,
      Attempt.run_bind_lift]
    cases (h.arrivals child t).1.deciding with
    | exited e => rfl
    | trapped signal trap => rfl

/-- The outcome of a run hangs together, and no cleanup changes its verdict. Once the child has
exited there is an outcome with a sweep and without one, and the two differ in the report of the
sweep alone. -/
theorem wrap_verdict_unchanged_by_cleanup (sv : Supervisor) (h : Host σ) (command : List String)
    (s : σ) :
    (∀ sweepOnExit outcome u, (sv.wrap h command sweepOnExit).run s = (.ok outcome, u) →
      ∃ child a t, Started h command s child a t ∧ outcome.verdict = a.deciding.verdict ∧
        outcome.Consistent a) ∧
    (∀ child a t e, Started h command s child a t → a.deciding = .exited e →
      ∃ plain swept answer v, (sv.wrap h command false).run s = (.ok plain, t) ∧
        (sv.wrap h command true).run s = (.ok swept, v) ∧
        (sv.cascade h.toMachine (h.spared child)).run t = (answer, v) ∧
        plain.verdict = a.deciding.verdict ∧ AddsReport plain swept answer) ∧
    ((sv.wrap h command true).run s).1.map (·.verdict) =
      ((sv.wrap h command false).run s).1.map (·.verdict) := by
  refine ⟨?_, ?_, sv.wrap_verdict_eq h command s⟩
  · intro sweepOnExit outcome u done
    exact wrap_consistent done
  · intro child a t e started exited
    exact wrap_exited started exited

/-- A command that fails, and a sweep that cannot read the table. -/
example :
    ((Rehearsal.pytestSupervisor.wrap (Rehearsal.Scene.host 2 1) ["sleep", "soon"] true).run
      { table := { unreadable := some (0, "gone") }, stage := .bare }).1.map
        (fun o => (o.verdict, o.cascade)) =
      .ok ({ exitCode := 1, trapped := none, state := .exited 1 }, none) := by
  decide +kernel

end Supervisor

end Straggler
