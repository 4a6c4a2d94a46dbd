import Straggler.Proofs.Interruption
import Straggler.Wrapper

/-!
# Supervised commands

What becomes of a command that is run under supervision. Of all that reaches the loop one event
decides: the child's exit, or a signal that comes before it. `Awaits` has the rules of the loop,
and `Decided` everything that a run can come to from there, with the calls it makes to the machine:
those of one cascade at most, and after them at most one signal to the child.
-/

namespace Straggler

set_option autoImplicit false

variable {σ α β : Type}

/-! ## The loop -/

/-- The rules of the loop, which waits with its inbox open or closed. From a closed inbox nothing
is read. -/
inductive Awaits : Bool → List Event → Deciding → Prop
  | exited (inboxOpen : Bool) (e : Ending) (later : List Event) :
      Awaits inboxOpen (.exit e :: later) (.exited e)
  | trapped (s : Signal) (later : List Event) :
      Awaits true (.notice (.signal s) :: later) (.trapped s (.signalReceived s))
  | closed {later : List Event} {d : Deciding} :
      Awaits false later d → Awaits true (.notice .closed :: later) d
  | unread {n : Notice} {later : List Event} {d : Deciding} :
      Awaits false later d → Awaits false (.notice n :: later) d

namespace Awaits

variable {inboxOpen : Bool} {events : List Event} {d d' : Deciding}

theorem unique (h : Awaits inboxOpen events d) (h' : Awaits inboxOpen events d') : d = d' := by
  induction h with
  | exited => cases h'; rfl
  | trapped => cases h'; rfl
  | closed _ ih =>
    cases h' with
    | closed h' => exact ih h'
  | unread _ ih =>
    cases h' with
    | unread h' => exact ih h'

/-- What comes after the event that decides is not looked at. -/
theorem append (h : Awaits inboxOpen events d) (later : List Event) :
    Awaits inboxOpen (events ++ later) d := by
  induction h with
  | exited inboxOpen e _ => exact .exited inboxOpen e _
  | trapped s _ => exact .trapped s _
  | closed _ ih => exact .closed ih
  | unread _ ih => exact .unread ih

theorem of_eq (h : Awaits inboxOpen events d) : Deciding.of .running inboxOpen events = some d := by
  induction h with
  | exited | trapped => rfl
  | closed _ ih => exact ih
  | unread _ ih => exact ih

theorem of_of_eq (h : Deciding.of .running inboxOpen events = some d) :
    Awaits inboxOpen events d := by
  induction events generalizing inboxOpen with
  | nil => cases h
  | cons event later ih =>
    cases event with
    | exit e =>
      cases h
      exact .exited inboxOpen e later
    | notice n =>
      cases inboxOpen with
      | false => exact .unread (ih h)
      | true =>
        cases n with
        | closed => exact .closed (ih h)
        | signal s =>
          cases h
          exact .trapped s later

theorem deciding (a : Arrivals) : Awaits true a.events a.deciding :=
  of_of_eq (Option.some_get a.decided).symm

theorem trap_eq {s : Signal} {trap : Trap} (h : Awaits inboxOpen events (.trapped s trap)) :
    trap = .signalReceived s := by
  -- The induction is on the rules, so what is decided has to be a variable.
  generalize hd : Deciding.trapped s trap = d at h
  induction h with
  | exited => cases hd
  | trapped => cases hd; rfl
  | closed _ ih => exact ih hd
  | unread _ ih => exact ih hd

theorem mem_of_exited {e : Ending} (h : Awaits inboxOpen events (.exited e)) :
    .exit e ∈ events := by
  generalize hd : Deciding.exited e = d at h
  induction h with
  | exited => cases hd; exact List.mem_cons_self
  | trapped => cases hd
  | closed _ ih => exact List.mem_cons_of_mem _ (ih hd)
  | unread _ ih => exact List.mem_cons_of_mem _ (ih hd)

/-- Something else than closings is needed to decide. -/
theorem exists_ne_closed (h : Awaits inboxOpen events d) :
    ∃ e ∈ events, e ≠ .notice .closed := by
  induction h with
  | exited _ e _ => exact ⟨.exit e, List.mem_cons_self, nofun⟩
  | trapped s _ => exact ⟨.notice (.signal s), List.mem_cons_self, nofun⟩
  | closed _ ih =>
    obtain ⟨e, he, ne⟩ := ih
    exact ⟨e, List.mem_cons_of_mem _ he, ne⟩
  | unread _ ih =>
    obtain ⟨e, he, ne⟩ := ih
    exact ⟨e, List.mem_cons_of_mem _ he, ne⟩

end Awaits

theorem Deciding.of_eq_some_iff {inboxOpen : Bool} {events : List Event} {d : Deciding} :
    Deciding.of .running inboxOpen events = some d ↔ Awaits inboxOpen events d :=
  ⟨Awaits.of_of_eq, Awaits.of_eq⟩

theorem Deciding.of_closings {events : List Event}
    (closings : ∀ e ∈ events, e = .notice .closed) : Deciding.of .running true events = none := by
  rw [Option.eq_none_iff_forall_not_mem]
  intro d decided
  obtain ⟨e, he, ne⟩ := (of_eq_some_iff.mp decided).exists_ne_closed
  exact ne (closings e he)

/-- What arrives is the same for both up to an event that decides. -/
def AgreeUntilDecided (a b : Arrivals) : Prop :=
  ∃ seen d, Awaits true seen d ∧ seen <+: a.events ∧ seen <+: b.events

/-- How the loop takes what reaches it: by its rules, for which what comes later does not count, a
closing never ends it, and a signal that is read always trips the trap. -/
structure Arrivals.Heard (a : Arrivals) : Prop where
  loop : ∀ events d, Deciding.of .running true events = some d ↔ Awaits true events d
  rules : ∀ later d, Awaits true (a.events ++ later) d ↔ d = a.deciding
  closings : ∀ seen, (∀ e ∈ seen, e = .notice .closed) → Deciding.of .running true seen = none
  tripped : ∀ s trap, a.deciding = .trapped s trap → Trap.running.trip s = (true, trap)

theorem Arrivals.heard (a : Arrivals) : a.Heard where
  loop := fun _ _ => Deciding.of_eq_some_iff
  rules := by
    intro later d
    have decides := (Awaits.deciding a).append later
    exact ⟨fun h => h.unique decides, fun h => h ▸ decides⟩
  closings := fun _ => Deciding.of_closings
  tripped := by
    intro s trap h
    obtain ⟨rfl⟩ := (h ▸ Awaits.deciding a).trap_eq
    rfl

theorem AgreeUntilDecided.deciding_eq {a b : Arrivals} (h : AgreeUntilDecided a b) :
    a.deciding = b.deciding := by
  obtain ⟨seen, d, decides, ⟨_, ha⟩, ⟨_, hb⟩⟩ := h
  have left : Awaits true a.events d := ha ▸ decides.append _
  have right : Awaits true b.events d := hb ▸ decides.append _
  exact ((Awaits.deciding a).unique left).trans (right.unique (Awaits.deciding b))

/-! ## A run from its start to its end -/

def Host.spared (h : Host σ) (child : Pid) : Protected :=
  (Protected.ofCaller h.self h.parent).insert child

/-- The command runs as a child, and the loop has got to see what arrives. -/
structure Started (h : Host σ) (command : List String) (s : σ) (child : Pid) (a : Arrivals)
    (t : σ) : Prop where
  named : command ≠ []
  began : ∃ u, h.spawn command s = (.ok child, u) ∧ h.arrivals child u = (a, t)

def Unstarted (h : Host σ) (command : List String) (s : σ) : Prop :=
  command = [] ∨ ∃ cause, (h.spawn command s).1 = .error cause

theorem Started.not_unstarted {h : Host σ} {command : List String} {child : Pid} {a : Arrivals}
    {s t : σ} (started : Started h command s child a t) : ¬ Unstarted h command s := by
  obtain ⟨named, u, hspawn, _⟩ := started
  rintro (unnamed | ⟨cause, hcause⟩)
  · exact named unnamed
  · rw [hspawn] at hcause
    cases hcause

theorem Started.unique {h : Host σ} {command : List String} {child child' : Pid} {a a' : Arrivals}
    {s t t' : σ} (started : Started h command s child a t)
    (started' : Started h command s child' a' t') : child' = child ∧ a' = a ∧ t' = t := by
  obtain ⟨_, u, hspawn, harrivals⟩ := started
  obtain ⟨_, u', hspawn', harrivals'⟩ := started'
  cases hspawn.symm.trans hspawn'
  cases harrivals.symm.trans harrivals'
  exact ⟨rfl, rfl, rfl⟩

theorem unstarted_or_started (h : Host σ) (command : List String) (s : σ) :
    Unstarted h command s ∨ ∃ child a t, Started h command s child a t := by
  by_cases named : command = []
  · exact .inl (.inl named)
  · rcases hspawn : h.spawn command s with ⟨cause | child, u⟩
    · exact .inl (.inr ⟨cause, congrArg Prod.fst hspawn⟩)
    · exact .inr ⟨child, _, _, named, u, hspawn, rfl⟩

def WrapOutcome.ofExit (child : Pid) (e : Ending) (cascade : Option CascadeReport) :
    WrapOutcome where
  exitCode := e.exitCode
  childPid := child
  trapped := none
  cascade := cascade
  state := .exited e.exitCode

def WrapOutcome.ofSignal (child : Pid) (s : Signal) (cascade : CascadeReport) : WrapOutcome where
  exitCode := Supervisor.trappedCode s
  childPid := child
  trapped := some s
  cascade := some cascade
  state := .exited (Supervisor.trappedCode s)

theorem Attempt.run_bind_lift (x : StateM σ α) (f : α → Attempt σ β) (s : σ) :
    (ExceptT.lift x >>= f).run s = (f (x s).1).run (x s).2 :=
  rfl

namespace Supervisor

def conclude (sv : Supervisor) (h : Host σ) (child : Pid) (sweepOnExit : Bool) (e : Ending) :
    Attempt σ WrapOutcome := do
  let cascade ← if sweepOnExit then
      Except.toOption <$> ExceptT.lift (sv.cascade h.toMachine (h.spared child)).run
    else pure none
  return .ofExit child e cascade

def cleanUp (sv : Supervisor) (h : Host σ) (child : Pid) (signal : Signal) :
    Attempt σ WrapOutcome := do
  let cascade ← sv.cascade h.toMachine (h.spared child)
  ExceptT.lift (sv.handOn h child signal)
  return .ofSignal child signal cascade

def see (sv : Supervisor) (h : Host σ) (child : Pid) (signal : Signal) : StateM σ Unit := do
  let _ ← h.send child signal
  if !(← h.waitFor child sv.settings.policy.graceWindow) then
    h.forceKill child

variable {sv : Supervisor} {h : Host σ} {command : List String} {sweepOnExit : Bool}
variable {child : Pid} {a : Arrivals} {signal : Signal} {s t : σ}

theorem wrap_eq (sv : Supervisor) (h : Host σ) (command : List String) (sweepOnExit : Bool) :
    sv.wrap h command sweepOnExit = (spawnChild h command >>= fun child =>
      ExceptT.lift (h.arrivals child) >>= fun a =>
      match a.deciding with
      | .exited e => sv.conclude h child sweepOnExit e
      | .trapped signal _ => sv.cleanUp h child signal) := by
  unfold wrap conclude cleanUp
  refine bind_congr fun child => bind_congr fun a => ?_
  change (match a.deciding with | .exited e => _ | .trapped signal t => _) = _
  cases a.deciding with
  | exited e => cases sweepOnExit <;> rfl
  | trapped signal t => rfl

theorem handOn_eq (sv : Supervisor) (h : Host σ) (child : Pid) (signal : Signal) (s : σ) :
    sv.handOn h child signal s =
      if (h.hasExited child s).1 then ((), (h.hasExited child s).2)
      else sv.see h child signal (h.hasExited child s).2 := by
  unfold handOn
  rw [bind_apply]
  cases (h.hasExited child s).1 <;> rfl

theorem spawnChild_run (named : command ≠ []) (s : σ) :
    (spawnChild h command).run s =
      ((h.spawn command s).1.mapError (.spawn (" ".intercalate command)),
        (h.spawn command s).2) := by
  cases command with
  | nil => exact absurd rfl named
  | cons program arguments =>
    change (ExceptT.lift (h.spawn (program :: arguments)) >>= _ : Attempt σ Pid).run s = _
    rw [Attempt.run_bind_lift]
    cases (h.spawn (program :: arguments) s).1 <;> rfl

theorem wrap_started (sv : Supervisor) (started : Started h command s child a t)
    (sweepOnExit : Bool) :
    (sv.wrap h command sweepOnExit).run s =
      match a.deciding with
      | .exited e => (sv.conclude h child sweepOnExit e).run t
      | .trapped signal _ => (sv.cleanUp h child signal).run t := by
  obtain ⟨named, u, hspawn, harrivals⟩ := started
  have spawned : (spawnChild h command).run s = (.ok child, u) := by
    rw [spawnChild_run named, hspawn]
    rfl
  rw [wrap_eq, Attempt.run_bind_of_ok spawned, Attempt.run_bind_lift, harrivals]
  cases a.deciding <;> rfl

theorem conclude_of_cascade {answer : Except Error CascadeReport} {e : Ending}
    (swept : (sv.cascade h.toMachine (h.spared child)).run s = (answer, t)) :
    (sv.conclude h child true e).run s = (.ok (.ofExit child e answer.toOption), t) := by
  change (Except.ok (WrapOutcome.ofExit child e
      ((sv.cascade h.toMachine (h.spared child)).run s).1.toOption),
    ((sv.cascade h.toMachine (h.spared child)).run s).2) = _
  rw [swept]

theorem cleanUp_of_error {e : Error}
    (failed : (sv.cascade h.toMachine (h.spared child)).run s = (.error e, t)) :
    (sv.cleanUp h child signal).run s = (.error e, t) :=
  Attempt.run_bind_of_error failed

theorem cleanUp_of_ok {cascade : CascadeReport}
    (done : (sv.cascade h.toMachine (h.spared child)).run s = (.ok cascade, t)) :
    (sv.cleanUp h child signal).run s =
      (.ok (.ofSignal child signal cascade), (sv.handOn h child signal t).2) :=
  Attempt.run_bind_of_ok done

end Supervisor

/-! ## Recorded hosts -/

/-- What is no call to the machine leaves the record as it is. -/
def unrecorded (x : StateM σ α) : StateM (σ × List Call) α := fun (s, calls) =>
  ((x s).1, (x s).2, calls)

theorem unrecorded_makes (x : StateM σ α) : Makes x (unrecorded x) fun _ calls => calls = [] :=
  fun _ _ => ⟨[], rfl, rfl⟩

/-- The same host with a record of the calls made to its machine, latest first. -/
def Host.recorded (h : Host σ) : Host (σ × List Call) where
  toMachine := h.toMachine.recorded
  self := h.self
  parent := h.parent
  spawn := fun command => unrecorded (h.spawn command)
  arrivals := fun child => unrecorded (h.arrivals child)
  hasExited := fun child => unrecorded (h.hasExited child)
  waitFor := fun child ms => unrecorded (h.waitFor child ms)
  forceKill := fun child => unrecorded (h.forceKill child)

/-- The calls by which a signal is handed on to the child, if it is still there. -/
inductive HandedOn (h : Host σ) (child : Pid) (signal : Signal) (s : σ) : List Call → Prop
  | exited : (h.hasExited child s).1 = true → HandedOn h child signal s []
  | sent (delivery : Delivery) : (h.hasExited child s).1 = false →
      HandedOn h child signal s [.send child signal delivery]

/-- What a run comes to from where its loop ends, and its calls. A failed sweep after an exit is
let pass; a failed cascade after a signal is the end of it. -/
inductive Decided (sv : Supervisor) (h : Host σ) (child : Pid) (sweepOnExit : Bool) (s : σ) :
    Deciding → Except Error WrapOutcome → List Call → Prop
  | exited (e : Ending) : sweepOnExit = false →
      Decided sv h child sweepOnExit s (.exited e) (.ok (.ofExit child e none)) []
  | swept (e : Ending) (answer : Except Error CascadeReport) (calls : List Call) (t : σ) :
      sweepOnExit = true →
      watched (sv.cascade h.toMachine.recorded (h.spared child)).run s = ((answer, calls), t) →
      Decided sv h child sweepOnExit s (.exited e) (.ok (.ofExit child e answer.toOption)) calls
  | failed (signal : Signal) (trap : Trap) (e : Error) (calls : List Call) (t : σ) :
      watched (sv.cascade h.toMachine.recorded (h.spared child)).run s = ((.error e, calls), t) →
      Decided sv h child sweepOnExit s (.trapped signal trap) (.error e) calls
  | cleaned (signal : Signal) (trap : Trap) (cascade : CascadeReport) (first last : List Call)
      (t : σ) :
      watched (sv.cascade h.toMachine.recorded (h.spared child)).run s =
        ((.ok cascade, first), t) →
      HandedOn h child signal t last →
      Decided sv h child sweepOnExit s (.trapped signal trap)
        (.ok (.ofSignal child signal cascade)) (first ++ last)

/-- A run reads the table no more often than one cascade does. -/
theorem Decided.readings_length_le {sv : Supervisor} {h : Host σ} {child : Pid} {sweepOnExit : Bool}
    {s : σ} {d : Deciding} {answer : Except Error WrapOutcome} {calls : List Call}
    (decided : Decided sv h child sweepOnExit s d answer calls) :
    (readings calls).length ≤ sv.settings.categories.length := by
  cases decided with
  | exited => exact Nat.zero_le _
  | swept _ _ _ _ _ swept => exact (Supervisor.cascaded_of_watched swept).1.readings_length_le
  | failed _ _ _ _ _ failed => exact (Supervisor.cascaded_of_watched failed).1.readings_length_le
  | cleaned _ _ _ first last _ done handed =>
    have unread : readings last = [] := by
      cases handed <;> rfl
    rw [readings_append, unread, List.append_nil]
    exact (Supervisor.cascaded_of_watched done).1.readings_length_le

theorem Started.recorded {h : Host σ} {command : List String} {child : Pid} {a : Arrivals}
    {s t : σ} (started : Started h command s child a t) (calls : List Call) :
    Started h.recorded command (s, calls) child a (t, calls) := by
  obtain ⟨named, u, hspawn, harrivals⟩ := started
  refine ⟨named, (u, calls), ?_, ?_⟩
  · change ((h.spawn command s).1, (h.spawn command s).2, calls) = _
    rw [hspawn]
  · change ((h.arrivals child u).1, (h.arrivals child u).2, calls) = _
    rw [harrivals]

namespace Supervisor

variable {sv : Supervisor} {h : Host σ} {command : List String} {sweepOnExit : Bool}
variable {child : Pid} {a : Arrivals} {signal : Signal} {s t : σ}

theorem spawnChild_recorded (h : Host σ) (command : List String) (s : σ) (calls : List Call) :
    (spawnChild h.recorded command).run (s, calls) =
      (((spawnChild h command).run s).1, ((spawnChild h command).run s).2, calls) := by
  by_cases named : command = []
  · subst named
    rfl
  · rw [spawnChild_run named, spawnChild_run named]
    rfl

/-- Without a child nothing is done at all. -/
theorem wrap_unstarted (sv : Supervisor) (unstarted : Unstarted h command s)
    (sweepOnExit : Bool) :
    ∃ text cause t, (sv.wrap h command sweepOnExit).run s = (.error (.spawn text cause), t) ∧
      (sv.wrap h.recorded command sweepOnExit).run (s, []) =
        (.error (.spawn text cause), t, []) := by
  obtain ⟨text, cause, t, failed⟩ : ∃ text cause t,
      (spawnChild h command).run s = (.error (.spawn text cause), t) := by
    by_cases named : command = []
    · subst named
      exact ⟨_, _, s, rfl⟩
    · obtain ⟨cause, hcause⟩ := unstarted.resolve_left named
      rw [spawnChild_run named, hcause]
      exact ⟨_, cause, _, rfl⟩
  have recorded := spawnChild_recorded h command s []
  rw [failed] at recorded
  exact ⟨text, cause, t, Attempt.run_bind_of_error failed, Attempt.run_bind_of_error recorded⟩

theorem see_makes (sv : Supervisor) (h : Host σ) (child : Pid) (signal : Signal) :
    Makes (sv.see h child signal) (sv.see h.recorded child signal) fun _ calls =>
      ∃ delivery, calls = [.send child signal delivery] := by
  refine ((Makes.send h.toMachine child signal).bind (fun _ _ calls => calls = []) fun _ =>
    ((unrecorded_makes (h.waitFor child sv.settings.policy.graceWindow)).bind
      (fun _ _ calls => calls = []) fun inTime => ?_).mono ?_).mono ?_
  · cases inTime with
    | true => exact (Makes.pure ()).mono fun _ _ made => made.2
    | false => exact unrecorded_makes (h.forceKill child)
  · rintro _ _ ⟨_, _, _, rfl, rfl, rfl⟩
    rfl
  · rintro _ _ ⟨delivery, _, _, rfl, rfl, rfl⟩
    exact ⟨delivery, rfl⟩

theorem handOn_recorded (sv : Supervisor) (h : Host σ) (child : Pid) (signal : Signal) (s : σ)
    (calls : List Call) :
    ∃ made, HandedOn h child signal s made ∧ sv.handOn h.recorded child signal (s, calls) =
      ((), (sv.handOn h child signal s).2, made.reverse ++ calls) := by
  rw [handOn_eq, handOn_eq]
  change ∃ made, HandedOn h child signal s made ∧
    (if (h.hasExited child s).1 = true then ((), (h.hasExited child s).2, calls)
      else sv.see h.recorded child signal ((h.hasExited child s).2, calls)) = _
  cases exited : (h.hasExited child s).1 with
  | true => exact ⟨[], .exited exited, rfl⟩
  | false =>
    obtain ⟨_, ⟨delivery, rfl⟩, hsee⟩ := sv.see_makes h child signal (h.hasExited child s).2 calls
    exact ⟨_, .sent delivery exited, hsee⟩

theorem cascade_recorded {answer : Except Error CascadeReport}
    (done : (sv.cascade h.toMachine (h.spared child)).run s = (answer, t)) :
    ∃ calls, (sv.cascade h.recorded.toMachine (h.recorded.spared child)).run (s, []) =
        (answer, t, calls.reverse) ∧
      watched (sv.cascade h.toMachine.recorded (h.spared child)).run s = ((answer, calls), t) := by
  obtain ⟨made, _, hrecorded⟩ := sv.cascade_makes h.toMachine (h.spared child) s []
  rw [done, List.append_nil] at hrecorded
  refine ⟨made, hrecorded, ?_⟩
  rw [watched_of_eq hrecorded, List.reverse_reverse]

theorem conclude_decided (sv : Supervisor) (h : Host σ) (child : Pid) (sweepOnExit : Bool)
    (e : Ending) (s : σ) :
    ∃ answer calls t, (sv.conclude h child sweepOnExit e).run s = (answer, t) ∧
      (sv.conclude h.recorded child sweepOnExit e).run (s, []) = (answer, t, calls.reverse) ∧
      Decided sv h child sweepOnExit s (.exited e) answer calls := by
  cases sweepOnExit with
  | false => exact ⟨_, [], s, rfl, rfl, .exited e rfl⟩
  | true =>
    rcases done : (sv.cascade h.toMachine (h.spared child)).run s with ⟨answer, t⟩
    obtain ⟨calls, hrecorded, hwatched⟩ := cascade_recorded done
    exact ⟨_, calls, t, conclude_of_cascade done, conclude_of_cascade hrecorded,
      .swept e answer calls t rfl hwatched⟩

theorem cleanUp_decided (sv : Supervisor) (h : Host σ) (child : Pid) (sweepOnExit : Bool)
    (signal : Signal) (trap : Trap) (s : σ) :
    ∃ answer calls t, (sv.cleanUp h child signal).run s = (answer, t) ∧
      (sv.cleanUp h.recorded child signal).run (s, []) = (answer, t, calls.reverse) ∧
      Decided sv h child sweepOnExit s (.trapped signal trap) answer calls := by
  rcases done : (sv.cascade h.toMachine (h.spared child)).run s with ⟨e | cascade, t⟩
  · obtain ⟨calls, hrecorded, hwatched⟩ := cascade_recorded done
    exact ⟨.error e, calls, t, cleanUp_of_error done, cleanUp_of_error hrecorded,
      .failed signal trap e calls t hwatched⟩
  · obtain ⟨first, hrecorded, hwatched⟩ := cascade_recorded done
    -- What is handed on goes on top of the record that the cascade left.
    obtain ⟨last, hlast, hhanded⟩ := sv.handOn_recorded h child signal t first.reverse
    refine ⟨_, first ++ last, _, cleanUp_of_ok done, ?_,
      .cleaned signal trap cascade first last t hwatched hlast⟩
    rw [cleanUp_of_ok hrecorded, hhanded, List.reverse_append]

/-- Once a run is decided, it does nothing else than follows from that. -/
theorem wrap_decided (sv : Supervisor) (started : Started h command s child a t)
    (sweepOnExit : Bool) :
    ∃ answer calls u, watched (sv.wrap h.recorded command sweepOnExit).run s =
        ((answer, calls), u) ∧
      (sv.wrap h command sweepOnExit).run s = (answer, u) ∧
      Decided sv h child sweepOnExit t a.deciding answer calls := by
  have plain := sv.wrap_started started sweepOnExit
  have recorded := sv.wrap_started (started.recorded []) sweepOnExit
  obtain ⟨answer, calls, u, hplain, hrecorded, decided⟩ : ∃ answer calls u,
      (sv.wrap h command sweepOnExit).run s = (answer, u) ∧
      (sv.wrap h.recorded command sweepOnExit).run (s, []) = (answer, u, calls.reverse) ∧
      Decided sv h child sweepOnExit t a.deciding answer calls := by
    rw [plain, recorded]
    cases a.deciding with
    | exited e => exact sv.conclude_decided h child sweepOnExit e t
    | trapped signal trap => exact sv.cleanUp_decided h child sweepOnExit signal trap t
  refine ⟨answer, calls, u, ?_, hplain, decided⟩
  rw [watched_of_eq hrecorded, List.reverse_reverse]

/-! ## One event decides -/

theorem wrap_eq_of_agree {arrivals : Pid → StateM σ Arrivals}
    (agree : ∀ child t, (arrivals child t).2 = (h.arrivals child t).2 ∧
      AgreeUntilDecided (arrivals child t).1 (h.arrivals child t).1) :
    sv.wrap { h with arrivals := arrivals } command sweepOnExit =
      sv.wrap h command sweepOnExit := by
  rw [wrap_eq, wrap_eq]
  refine bind_congr fun child => ?_
  funext t
  obtain ⟨hstate, hagree⟩ := agree child t
  change (ExceptT.lift (arrivals child) >>= _).run t = (ExceptT.lift (h.arrivals child) >>= _).run t
  rw [Attempt.run_bind_lift, Attempt.run_bind_lift, hstate, hagree.deciding_eq]
  rfl

/-- Of all that reaches the loop one event decides. A run makes one cascade after a signal, one or
none after an exit, and nothing at all without a child; what comes after the deciding event makes
no difference. -/
theorem wrap_decided_by_one_event (sv : Supervisor) (h : Host σ) (command : List String)
    (sweepOnExit : Bool) (s : σ) :
    ∃ answer calls t, watched (sv.wrap h.recorded command sweepOnExit).run s =
        ((answer, calls), t) ∧
      (sv.wrap h command sweepOnExit).run s = (answer, t) ∧
      (Unstarted h command s → (∃ text cause, answer = .error (.spawn text cause)) ∧ calls = []) ∧
      (∀ child a u, Started h command s child a u →
        a.Heard ∧ Decided sv h child sweepOnExit u a.deciding answer calls) ∧
      (readings calls).length ≤ sv.settings.categories.length ∧
      ∀ arrivals, (∀ child u, (arrivals child u).2 = (h.arrivals child u).2 ∧
          AgreeUntilDecided (arrivals child u).1 (h.arrivals child u).1) →
        sv.wrap { h with arrivals := arrivals } command sweepOnExit =
          sv.wrap h command sweepOnExit := by
  rcases unstarted_or_started h command s with unstarted | ⟨child, a, u, started⟩
  · obtain ⟨text, cause, t, plain, recorded⟩ := sv.wrap_unstarted unstarted sweepOnExit
    exact ⟨_, [], t, watched_of_eq recorded, plain, fun _ => ⟨⟨text, cause, rfl⟩, rfl⟩,
      fun _ _ _ started => absurd unstarted started.not_unstarted, Nat.zero_le _,
      fun _ => wrap_eq_of_agree⟩
  · obtain ⟨answer, calls, t, hwatched, plain, decided⟩ := sv.wrap_decided started sweepOnExit
    refine ⟨answer, calls, t, hwatched, plain, fun unstarted => absurd unstarted
      started.not_unstarted, ?_, decided.readings_length_le, fun _ => wrap_eq_of_agree⟩
    intro child' a' u' started'
    obtain ⟨rfl, rfl, rfl⟩ := started.unique started'
    exact ⟨a'.heard, decided⟩

end Supervisor

end Straggler
