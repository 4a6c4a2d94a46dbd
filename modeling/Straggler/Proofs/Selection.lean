import Straggler.Proofs.Precedence

/-!
# What a cascade selects

Whom a cascade selects follows from what the table showed it, category by category, and from
nothing else. A dry run makes this selection and stops there: it reads the table and makes no other
call. So where a table recites its answers, whatever is done to the processes, a dry cascade reads
what a live one reads, and it tells beforehand whom the live one targets, or where and why it fails.
-/

namespace Straggler

set_option autoImplicit false

variable {σ α β : Type}

/-! ## Relations that every call respects -/

/-- Whatever is called, the state before and the state after are related. -/
structure Machine.Respects (m : Machine σ) (R : σ → σ → Prop) : Prop where
  refl : ∀ s, R s s
  trans : ∀ {s t u}, R s t → R t u → R s u
  snapshot : ∀ s, R s (m.snapshot s).2
  send : ∀ pid signal s, R s (m.send pid signal s).2
  probe : ∀ pid s, R s (m.isAlive pid s).2
  sleep : ∀ ms s, R s (m.sleep ms s).2

namespace Machine.Respects

variable {m : Machine σ} {R : σ → σ → Prop}

theorem mapM (h : m.Respects R) {f : α → StateM σ β} (hf : ∀ a s, R s (f a s).2) (l : List α)
    (s : σ) : R s (l.mapM f s).2 := by
  induction l generalizing s with
  | nil => exact h.refl s
  | cons a as ih =>
    have rest := ih (f a s).2
    rw [List.mapM_cons]
    exact h.trans (hf a s) rest

theorem bindAttempt (h : m.Respects R) {x : Attempt σ α} {f : α → Attempt σ β}
    (hx : ∀ s, R s (x.run s).2) (hf : ∀ a s, R s ((f a).run s).2) (s : σ) :
    R s ((x >>= f).run s).2 := by
  have first := hx s
  rcases made : x.run s with ⟨e | a, t⟩
  · rw [Attempt.run_bind_of_error made]
    rwa [made] at first
  · rw [Attempt.run_bind_of_ok made]
    rw [made] at first
    exact h.trans first (hf a t)

theorem mapMAttempt (h : m.Respects R) {f : α → Attempt σ β} (hf : ∀ a s, R s ((f a).run s).2)
    (l : List α) (s : σ) : R s ((l.mapM f).run s).2 := by
  induction l generalizing s with
  | nil => exact h.refl s
  | cons a as ih =>
    rw [List.mapM_cons]
    refine h.bindAttempt (hf a) (fun b t => ?_) s
    refine h.bindAttempt ih (fun bs u => ?_) t
    exact h.refl u

theorem settle (h : m.Respects R) (policy : Policy) (r : Record) (graceful : Delivery) (s : σ) :
    R s (Straggler.settle m policy r graceful s).2 := by
  unfold Straggler.settle
  by_cases gone : graceful = .noSuchProcess
  · rw [if_pos gone]
    exact h.refl s
  · rw [if_neg gone]
    have probed := h.probe r.pid s
    rw [bind_apply]
    cases (m.isAlive r.pid s).1 with
    | false => exact probed
    | true =>
      have killed := h.send r.pid policy.killSignal (m.isAlive r.pid s).2
      rw [if_pos rfl, bind_apply]
      cases (m.send r.pid policy.killSignal (m.isAlive r.pid s).2).1 <;> exact h.trans probed killed

theorem terminate (h : m.Respects R) (policy : Policy) (plan : Plan) (s : σ) :
    R s (Straggler.terminate m policy plan s).2 := by
  have warnings := h.mapM (f := warn m policy) (fun r t => h.send r.pid policy.graceSignal t)
    plan.records s
  have window (warned : List (Record × Delivery)) (t : σ) : R t (pause m policy warned t).2 := by
    unfold pause
    split
    · exact h.sleep policy.graceWindow t
    · exact h.refl t
  have settlements (warned : List (Record × Delivery)) (t : σ) :=
    h.mapM (fun (w : Record × Delivery) u => h.settle policy w.1 w.2 u) warned t
  rw [terminate_eq]
  exact h.trans warnings (h.trans (window _ _) (settlements _ _))

theorem sweep (h : m.Respects R) (sv : Supervisor) (p : Protected) (c : Category) (s : σ) :
    R s ((sv.sweep m p c).run s).2 := by
  rw [Supervisor.sweep_eq]
  refine h.bindAttempt h.snapshot (fun snapshot t => ?_) s
  refine h.bindAttempt (fun u => ?_) (fun _ u => ?_) t
  · unfold Supervisor.escalate
    cases sv.dryRun with
    | true => exact h.refl u
    | false => exact h.terminate sv.settings.policy (c.plan p snapshot) u
  · exact h.refl u

theorem cascade (h : m.Respects R) (sv : Supervisor) (p : Protected) (s : σ) :
    R s ((sv.cascade m p).run s).2 := by
  rw [Supervisor.cascade_eq]
  refine h.bindAttempt (h.mapMAttempt (h.sweep sv p) sv.settings.categories) (fun _ t => ?_) s
  exact h.refl t

end Machine.Respects

/-! ## The selection -/

def CategoryReport.selection (r : CategoryReport) : CategoryReport :=
  { r with termination := none }

def CascadeReport.selection (r : CascadeReport) : CascadeReport where
  categories := r.categories.map (·.selection)

/-- What the categories select of what each of them is shown. -/
def foretold (p : Protected) (cs : List Category) (read : List (Except Error Snapshot)) :
    Except Error (List CategoryReport) :=
  (cs.zip read).mapM fun (c, reading) => reading.map fun snapshot => c.report p snapshot none

section Selection

variable {sv : Supervisor} {p : Protected} {calls : List Call}

theorem foretold_error (c : Category) (cs : List Category) (e : Error)
    (read : List (Except Error Snapshot)) : foretold p (c :: cs) (.error e :: read) = .error e := by
  rw [foretold, List.zip_cons_cons, List.mapM_cons]
  rfl

theorem foretold_ok (c : Category) (cs : List Category) (snapshot : Snapshot)
    (read : List (Except Error Snapshot)) : foretold p (c :: cs) (.ok snapshot :: read) =
      (foretold p cs read).map (c.report p snapshot none :: ·) := by
  rw [foretold, List.zip_cons_cons, List.mapM_cons, foretold]
  rfl

theorem Swept.selects {c : Category} {r : CategoryReport} (h : Swept sv p c (.ok r) calls) :
    ∃ snapshot, readings calls = [.ok snapshot] ∧ r.selection = c.report p snapshot none := by
  cases h with
  | dry snapshot _ =>
    exact ⟨snapshot, rfl, rfl⟩
  | live snapshot turns _ _ =>
    exact ⟨snapshot, readings_live snapshot _ turns, rfl⟩

theorem UntilError.selects {cs : List Category} {answer : Except Error (List CategoryReport)}
    (h : UntilError (Swept sv p) cs answer calls) :
    answer.map (List.map (·.selection)) = foretold p cs (readings calls) := by
  induction h with
  | nil => rfl
  | failed swept =>
    rw [swept.calls_of_error]
    exact (foretold_error _ _ _ []).symm
  | cons swept _ ih =>
    obtain ⟨snapshot, hread, hselection⟩ := swept.selects
    rw [readings_append, hread, List.singleton_append, foretold_ok, ← ih, ← hselection]
    rfl
  | later swept _ ih =>
    obtain ⟨snapshot, hread, _⟩ := swept.selects
    rw [readings_append, hread, List.singleton_append, foretold_ok, ← ih]
    rfl

/-- Whom a cascade selects, or that it fails, follows from its readings of the table. -/
theorem Cascaded.selects {answer : Except Error CascadeReport} (h : Cascaded sv p answer calls) :
    answer.map (·.selection) =
      (foretold p sv.settings.categories (readings calls)).map CascadeReport.mk := by
  obtain ⟨reports, rfl, h⟩ := h
  rw [← h.selects]
  cases reports <;> rfl

theorem Swept.termination {c : Category} {r : CategoryReport} (h : Swept sv p c (.ok r) calls) :
    r.termination = none ↔ sv.dryRun = true := by
  obtain ⟨_, _, exact⟩ := h.exact
  exact exact.dry

theorem Cascaded.termination {cascade : CascadeReport} (h : Cascaded sv p (.ok cascade) calls) :
    ∀ r ∈ cascade.categories, r.termination = none ↔ sv.dryRun = true := by
  obtain ⟨reports, hcascade, h⟩ := h
  cases reports with
  | error e => cases hcascade
  | ok reports =>
    cases hcascade
    exact h.forall_answers fun _ _ _ swept => swept.termination

end Selection

/-! ## Dry runs -/

/-- No process is signaled or probed, and no time passes. -/
def Inert (calls : List Call) : Prop :=
  ∀ call ∈ calls, ∃ answer, call = .snapshot answer

section Dry

variable {sv : Supervisor} {p : Protected} {calls : List Call}

theorem Swept.inert (dry : sv.dryRun = true) {c : Category} {answer : Except Error CategoryReport}
    (h : Swept sv p c answer calls) : Inert calls := by
  cases h with
  | unreadable e => exact List.forall_mem_singleton.mpr ⟨_, rfl⟩
  | dry snapshot _ => exact List.forall_mem_singleton.mpr ⟨_, rfl⟩
  | live _ _ live _ =>
    rw [dry] at live
    cases live

theorem Cascaded.inert (dry : sv.dryRun = true) {answer : Except Error CascadeReport}
    (h : Cascaded sv p answer calls) : Inert calls := by
  obtain ⟨_, _, h⟩ := h
  exact h.forall_calls fun _ _ _ swept => swept.inert dry

theorem Audited.inert {answer : Except Error AuditReport} (h : Audited sv p answer calls) :
    Inert calls := by
  cases h with
  | unreadable e => exact List.forall_mem_singleton.mpr ⟨_, rfl⟩
  | read snapshot => exact List.forall_mem_singleton.mpr ⟨_, rfl⟩

theorem Ran.inert (dry : sv.dryRun = true)
    {answer : Except Error (CascadeReport × AuditReport)} (h : Ran sv p answer calls) :
    Inert calls := by
  cases h with
  | failed e _ hcascade => exact hcascade.inert dry
  | audited _ _ first rest hcascade haudit =>
    exact List.forall_mem_append.mpr ⟨hcascade.inert dry, haudit.inert⟩

end Dry

/-! ## Tables that recite -/

/-- The table answers from a list that was fixed beforehand: `told read s` says that from the state
`s` on its next readings are those of `read`. Only a reading moves it on. -/
structure Recites (m : Machine σ) (told : List (Except Error Snapshot) → σ → Prop) : Prop where
  answer : ∀ read s, told read s → ∀ answer ∈ read.head?, (m.snapshot s).1 = answer
  snapshot : ∀ read s, told read s → told read.tail (m.snapshot s).2
  send : ∀ pid signal read s, told read s → told read (m.send pid signal s).2
  probe : ∀ pid read s, told read s → told read (m.isAlive pid s).2
  sleep : ∀ ms read s, told read s → told read (m.sleep ms s).2

/-- The same machine with a list before its table, which shows nothing until the list is over. -/
def Machine.reciting (m : Machine σ) : Machine (σ × List (Except Error Snapshot)) where
  snapshot := fun (s, read) =>
    match read with
    | [] => ((m.snapshot s).1, (m.snapshot s).2, [])
    | answer :: read => (answer, s, read)
  send := fun pid signal (s, read) => ((m.send pid signal s).1, (m.send pid signal s).2, read)
  isAlive := fun pid (s, read) => ((m.isAlive pid s).1, (m.isAlive pid s).2, read)
  sleep := fun ms (s, read) => ((m.sleep ms s).1, (m.sleep ms s).2, read)

theorem Machine.reciting_recites (m : Machine σ) :
    Recites m.reciting fun read s => s.2 = read where
  answer := by
    rintro _ ⟨s, read⟩ rfl answer hanswer
    cases read with
    | nil => cases hanswer
    | cons => exact Option.some.inj hanswer
  snapshot := by
    rintro _ ⟨s, read⟩ rfl
    cases read <;> rfl
  send := fun _ _ _ _ same => same
  probe := fun _ _ _ same => same
  sleep := fun _ _ _ same => same

/-- What was read since then is what the table was told, as far as both go. -/
def Recited (told : List (Except Error Snapshot) → σ → Prop) (before after : σ × List Call) :
    Prop :=
  ∃ made, after.2 = made.reverse ++ before.2 ∧ ∀ read, told read before.1 →
    (readings made).take read.length = read.take (readings made).length ∧
    told (read.drop (readings made).length) after.1

theorem Recites.respects {m : Machine σ} {told : List (Except Error Snapshot) → σ → Prop}
    (h : Recites m told) : m.recorded.Respects (Recited told) where
  refl := fun _ => ⟨[], rfl, fun _ hread => ⟨List.take_nil, hread⟩⟩
  trans := by
    rintro s t u ⟨first, hst, hfirst⟩ ⟨rest, htu, hrest⟩
    refine ⟨first ++ rest, ?_, fun read hread => ?_⟩
    · rw [htu, hst, List.reverse_append, List.append_assoc]
    · obtain ⟨begun, ht⟩ := hfirst read hread
      obtain ⟨continued, hu⟩ := hrest _ ht
      rw [List.length_drop] at continued
      rw [List.drop_drop] at hu
      rw [readings_append, List.length_append, List.take_append, List.take_add, begun, continued]
      exact ⟨rfl, hu⟩
  snapshot := by
    intro s
    refine ⟨[_], rfl, fun read hread => ?_⟩
    have next : told read.tail (m.snapshot s.1).2 := h.snapshot read s.1 hread
    rw [← List.drop_one] at next
    refine ⟨?_, next⟩
    cases read with
    | nil => rfl
    | cons answer read =>
      have shown : (m.snapshot s.1).1 = answer := h.answer _ s.1 hread answer rfl
      change [(m.snapshot s.1).1].take (read.length + 1) = [answer]
      rw [shown, List.take_succ_cons, List.take_nil]
  send := fun pid signal s => ⟨[_], rfl, fun read hread =>
    ⟨List.take_nil, h.send pid signal read s.1 hread⟩⟩
  probe := fun pid s => ⟨[_], rfl, fun read hread =>
    ⟨List.take_nil, h.probe pid read s.1 hread⟩⟩
  sleep := fun ms s => ⟨[_], rfl, fun read hread =>
    ⟨List.take_nil, h.sleep ms read s.1 hread⟩⟩

/-- What is heard of a list of readings by one who stops at the first that fails. -/
def heard : List (Except Error Snapshot) → List (Except Error Snapshot)
  | [] => []
  | .error e :: _ => [.error e]
  | .ok snapshot :: read => .ok snapshot :: heard read

theorem firstUnreadable_heard (read : List (Except Error Snapshot)) :
    firstUnreadable (heard read) = firstUnreadable read := by
  induction read with
  | nil => rfl
  | cons answer read ih =>
    cases answer with
    | error e => rfl
    | ok snapshot => rw [heard, firstUnreadable, firstUnreadable, ih]

/-- The list has an answer for every reading of a cascade over so many categories. -/
def Suffices (read : List (Except Error Snapshot)) (n : Nat) : Prop :=
  n ≤ read.length ∨ ∃ e, .error e ∈ read

theorem Suffices.exists_cons {read : List (Except Error Snapshot)} {n : Nat}
    (h : Suffices read (n + 1)) : ∃ answer later, read = answer :: later := by
  cases read with
  | nil =>
    rcases h with short | ⟨_, none⟩
    · exact absurd short (Nat.not_succ_le_zero n)
    · cases none
  | cons answer later => exact ⟨answer, later, rfl⟩

theorem Suffices.of_ok {read : List (Except Error Snapshot)} {snapshot : Snapshot} {n : Nat}
    (h : Suffices (.ok snapshot :: read) (n + 1)) : Suffices read n := by
  rcases h with long | ⟨e, he⟩
  · exact .inl (Nat.le_of_succ_le_succ long)
  · refine .inr ⟨e, ?_⟩
    simpa using he

/-- A cascade hears one reading for each category, up to the first that fails. -/
theorem UntilError.heard {sv : Supervisor} {p : Protected} {cs : List Category}
    {answer : Except Error (List CategoryReport)} {calls : List Call}
    (h : UntilError (Swept sv p) cs answer calls) {read : List (Except Error Snapshot)}
    (enough : Suffices read cs.length)
    (recited : (readings calls).take read.length = read.take (readings calls).length) :
    readings calls = Straggler.heard (read.take cs.length) := by
  -- A category that could be read accounts for the head of the list.
  have step {c : Category} {r : CategoryReport} {first rest : List Call} {n : Nat}
      {read : List (Except Error Snapshot)} (swept : Swept sv p c (.ok r) first)
      (enough : Suffices read (n + 1))
      (recited : (readings (first ++ rest)).take read.length =
        read.take (readings (first ++ rest)).length) :
      ∃ snapshot later, read = .ok snapshot :: later ∧ Suffices later n ∧
        readings (first ++ rest) = .ok snapshot :: readings rest ∧
        (readings rest).take later.length = later.take (readings rest).length := by
    obtain ⟨snapshot, hread⟩ := swept.reads
    obtain ⟨answer, later, rfl⟩ := enough.exists_cons
    have all : readings (first ++ rest) = .ok snapshot :: readings rest := by
      rw [readings_append, hread, List.singleton_append]
    rw [all, List.length_cons, List.length_cons, List.take_succ_cons, List.take_succ_cons]
      at recited
    obtain ⟨rfl, agreed⟩ := List.cons.inj recited
    exact ⟨snapshot, later, rfl, enough.of_ok, all, agreed⟩
  induction h generalizing read with
  | nil => rfl
  | failed swept =>
    obtain ⟨answer, later, rfl⟩ := enough.exists_cons
    rw [swept.calls_of_error] at recited ⊢
    have head : _ = answer := (List.cons.inj recited).1
    rw [List.length_cons, List.take_succ_cons, ← head]
    rfl
  | cons swept _ ih =>
    obtain ⟨snapshot, later, rfl, enough, all, recited⟩ := step swept enough recited
    rw [all, ih enough recited]
    rfl
  | later swept _ ih =>
    obtain ⟨snapshot, later, rfl, enough, all, recited⟩ := step swept enough recited
    rw [all, ih enough recited]
    rfl

/-! ## Both cascades -/

/-- What a dry and a live cascade come to from the same readings: they fail at the same one with
the same error, or they select the same and only the live one does anything about it. -/
inductive Agree (read : List (Except Error Snapshot)) :
    Except Error CascadeReport → Except Error CascadeReport → Prop
  | failed {k : Nat} {e : Error} : firstUnreadable read = some (k, e) →
      Agree read (.error e) (.error e)
  | selected {dry live : CascadeReport} : firstUnreadable read = none →
      dry.selection = live.selection → (∀ r ∈ dry.categories, r.termination = none) →
      (∀ r ∈ live.categories, r.termination.isSome) → Agree read (.ok dry) (.ok live)

theorem UntilError.firstUnreadable_of_error {sv : Supervisor} {p : Protected} {cs : List Category}
    {e : Error} {calls : List Call} (h : UntilError (Swept sv p) cs (.error e) calls) :
    ∃ k, firstUnreadable (readings calls) = some (k, e) := by
  generalize hanswer : Except.error e = answer at h
  induction h with
  | nil => cases hanswer
  | failed swept =>
    cases hanswer
    rw [swept.calls_of_error]
    exact ⟨1, rfl⟩
  | cons => cases hanswer
  | later swept _ ih =>
    obtain ⟨k, hk⟩ := ih hanswer
    obtain ⟨snapshot, hread⟩ := swept.reads
    refine ⟨k + 1, ?_⟩
    rw [readings_append, hread, List.singleton_append, firstUnreadable, hk]
    rfl

theorem Cascaded.firstUnreadable_of_error {sv : Supervisor} {p : Protected} {e : Error}
    {calls : List Call} (h : Cascaded sv p (.error e) calls) :
    ∃ k, firstUnreadable (readings calls) = some (k, e) := by
  obtain ⟨reports, hcascade, h⟩ := h
  cases reports with
  | error _ =>
    cases hcascade
    exact h.firstUnreadable_of_error
  | ok _ => cases hcascade

theorem Cascaded.firstUnreadable_of_ok {sv : Supervisor} {p : Protected} {cascade : CascadeReport}
    {calls : List Call} (h : Cascaded sv p (.ok cascade) calls) :
    firstUnreadable (readings calls) = none := by
  obtain ⟨read, _, hread⟩ := h.reads
  rw [hread]
  exact firstUnreadable_ok read

/-- Cascades of the same categories that have heard the same list agree. -/
theorem Cascaded.agree {settings : Settings} {p : Protected}
    {dry live : Except Error CascadeReport} {dryCalls liveCalls : List Call}
    {read : List (Except Error Snapshot)}
    (hdry : Cascaded { settings, dryRun := true } p dry dryCalls)
    (hlive : Cascaded { settings } p live liveCalls) (dryHeard : readings dryCalls = heard read)
    (liveHeard : readings liveCalls = heard read) : Agree read dry live := by
  have selection : dry.map (·.selection) = live.map (·.selection) := by
    rw [hdry.selects, hlive.selects, dryHeard, liveHeard]
  cases dry with
  | error e =>
    obtain ⟨k, hk⟩ := hdry.firstUnreadable_of_error
    rw [dryHeard, firstUnreadable_heard] at hk
    cases live with
    | error e' =>
      cases selection
      exact .failed hk
    | ok => cases selection
  | ok dry =>
    cases live with
    | error => cases selection
    | ok live =>
      have readable := hlive.firstUnreadable_of_ok
      rw [liveHeard, firstUnreadable_heard] at readable
      refine .selected readable (Except.ok.inj selection) ?_ ?_
      · exact fun r hr => (hdry.termination r hr).mpr rfl
      · intro r hr
        rw [Option.isSome_iff_ne_none]
        intro none
        cases (hlive.termination r hr).mp none

namespace Supervisor

theorem cascade_heard {m : Machine σ} {told : List (Except Error Snapshot) → σ → Prop}
    (recites : Recites m told) (sv : Supervisor) (p : Protected) {s : σ}
    {read : List (Except Error Snapshot)} (hread : told read s)
    (enough : Suffices read sv.settings.categories.length) :
    ∃ answer calls t, watched (sv.cascade m.recorded p).run s = ((answer, calls), t) ∧
      (sv.cascade m p).run s = (answer, t) ∧ Cascaded sv p answer calls ∧
      readings calls = heard (read.take sv.settings.categories.length) := by
  obtain ⟨calls, hcascaded, hrecorded⟩ := sv.cascade_makes m p s []
  obtain ⟨made, hmade, recited⟩ := recites.respects.cascade sv p (s, [])
  have same : calls = made := by
    rw [hrecorded] at hmade
    simpa using hmade
  subst same
  have hwatched := watched_of_eq hrecorded
  rw [List.append_nil, List.reverse_reverse] at hwatched
  obtain ⟨reports, hanswer, untilError⟩ := hcascaded
  exact ⟨_, calls, _, hwatched, rfl, ⟨reports, hanswer, untilError⟩,
    untilError.heard enough (recited read hread).1⟩

/-- From this state on a dry and a live cascade read what stands in the list for their categories,
up to the first reading that fails, and they agree on it. -/
def CascadesAgree (settings : Settings) (m : Machine σ) (p : Protected)
    (read : List (Except Error Snapshot)) (s : σ) : Prop :=
  ∃ dry dryCalls t live liveCalls u,
    watched (cascade { settings, dryRun := true } m.recorded p).run s = ((dry, dryCalls), t) ∧
    (cascade { settings, dryRun := true } m p).run s = (dry, t) ∧
    watched (cascade { settings } m.recorded p).run s = ((live, liveCalls), u) ∧
    (cascade { settings } m p).run s = (live, u) ∧
    readings dryCalls = heard (read.take settings.categories.length) ∧
    readings liveCalls = heard (read.take settings.categories.length) ∧
    Agree (read.take settings.categories.length) dry live

/-- A dry run signals nobody, probes nobody and never waits. And where the table recites, it agrees
with the live run. -/
theorem dry_run_foretells (settings : Settings) (m : Machine σ) (p : Protected) :
    Makes (cascade { settings, dryRun := true } m p).run
      (cascade { settings, dryRun := true } m.recorded p).run (fun _ => Inert) ∧
    Makes (audit { settings, dryRun := true } m p).run
      (audit { settings, dryRun := true } m.recorded p).run (fun _ => Inert) ∧
    Makes (run { settings, dryRun := true } m p).run
      (run { settings, dryRun := true } m.recorded p).run (fun _ => Inert) ∧
    ∀ told, Recites m told → ∀ read s, told read s →
      Suffices read settings.categories.length → CascadesAgree settings m p read s := by
  refine ⟨?_, ?_, ?_, ?_⟩
  · exact (cascade_makes _ m p).mono fun _ _ made => made.inert rfl
  · exact (audit_makes _ m p).mono fun _ _ made => made.inert
  · exact (run_makes _ m p).mono fun _ _ made => made.inert rfl
  · intro told recites read s hread enough
    obtain ⟨dry, dryCalls, t, hdryWatched, hdryRun, hdry, dryHeard⟩ :=
      cascade_heard recites { settings, dryRun := true } p hread enough
    obtain ⟨live, liveCalls, u, hliveWatched, hliveRun, hlive, liveHeard⟩ :=
      cascade_heard recites { settings } p hread enough
    exact ⟨dry, dryCalls, t, live, liveCalls, u, hdryWatched, hdryRun, hliveWatched, hliveRun,
      dryHeard, liveHeard, hdry.agree hlive dryHeard liveHeard⟩

/-- Both cascades fail where the list has no snapshot. -/
theorem CascadesAgree.failed {settings : Settings} {m : Machine σ} {p : Protected}
    {read : List (Except Error Snapshot)} {s : σ} {k : Nat} {e : Error}
    (agree : CascadesAgree settings m p read s)
    (unreadable : firstUnreadable (read.take settings.categories.length) = some (k, e)) :
    ((cascade { settings, dryRun := true } m p).run s).1 = .error e ∧
      ((cascade { settings } m p).run s).1 = .error e := by
  obtain ⟨dry, dryCalls, t, live, liveCalls, u, -, hdry, -, hlive, -, -, agree⟩ := agree
  rw [hdry, hlive]
  cases agree with
  | failed hfirst =>
    obtain ⟨rfl, rfl⟩ := Prod.mk.inj (Option.some.inj (unreadable.symm.trans hfirst))
    exact ⟨rfl, rfl⟩
  | selected readable => cases unreadable.symm.trans readable

/-- Categories that overlap, and a table that shows the first of them processes in dispute and
cannot be read for the second. Both cascades fail there. -/
theorem dry_run_foretells_unreadable :
    Recites (Snapshot.machine .kill).reciting (fun read s => s.2 = read) ∧
    Suffices [.ok World.contested, .error (.processTable "gone")] 2 ∧
    firstUnreadable [.ok World.contested, .error (.processTable "gone")] =
      some (2, .processTable "gone") ∧
    CascadesAgree World.overlapping (Snapshot.machine .kill).reciting { pids := [44] }
      [.ok World.contested, .error (.processTable "gone")]
      (World.contested, [.ok World.contested, .error (.processTable "gone")]) ∧
    ((cascade { settings := World.overlapping, dryRun := true } (Snapshot.machine .kill).reciting
      { pids := [44] }).run
        (World.contested, [.ok World.contested, .error (.processTable "gone")])).1 =
      .error (.processTable "gone") ∧
    ((cascade { settings := World.overlapping } (Snapshot.machine .kill).reciting
      { pids := [44] }).run
        (World.contested, [.ok World.contested, .error (.processTable "gone")])).1 =
      .error (.processTable "gone") := by
  have recites := (Snapshot.machine .kill).reciting_recites
  have enough : Suffices [.ok World.contested, .error (.processTable "gone")] 2 :=
    .inl (Nat.le_refl 2)
  obtain ⟨_, _, _, foretells⟩ :=
    dry_run_foretells World.overlapping (Snapshot.machine .kill).reciting { pids := [44] }
  have agree := foretells _ recites _
    (World.contested, [.ok World.contested, .error (.processTable "gone")]) rfl enough
  exact ⟨recites, enough, rfl, agree, agree.failed rfl⟩

end Supervisor

end Straggler
