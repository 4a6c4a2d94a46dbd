import Straggler.Proofs.Supervision

/-!
# Unreadable tables

Where a reading of the process table fails, a run stops exactly there. What it did before is what a
cascade over the categories before would have done, and nothing comes after. Only the reading of
the closing audit may fail without harm: the run then reports what its cascade did, and why there
is no audit.
-/

namespace Straggler

set_option autoImplicit false

variable {σ α β : Type}

/-! ## Attempts that fail on their way -/

namespace Attempt

section Bind

variable {x : Attempt σ α} {f : α → Attempt σ β} {s t : σ}

theorem run_bind_of_ok {a : α} (h : x.run s = (.ok a, t)) : (x >>= f).run s = (f a).run t := by
  change ExceptT.bindCont f (x.run s).1 (x.run s).2 = _
  rw [h]
  rfl

theorem run_bind_of_error {e : Error} (h : x.run s = (.error e, t)) :
    (x >>= f).run s = (.error e, t) := by
  change ExceptT.bindCont f (x.run s).1 (x.run s).2 = _
  rw [h]
  rfl

end Bind

variable {f g : α → Attempt σ β} {s t u : σ}

theorem run_mapM_cons {a : α} {b : β} {as : List α} {bs : List β} (ha : (f a).run s = (.ok b, t))
    (has : (as.mapM f).run t = (.ok bs, u)) : ((a :: as).mapM f).run s = (.ok (b :: bs), u) := by
  rw [List.mapM_cons, run_bind_of_ok ha, run_bind_of_ok has]
  rfl

/-- A loop that fails has done all items before the one that failed, and none after it. -/
theorem mapM_error {l : List α} {e : Error} (h : (l.mapM f).run s = (.error e, t)) :
    ∃ before a after bs u, l = before ++ a :: after ∧ (before.mapM f).run s = (.ok bs, u) ∧
      (f a).run u = (.error e, t) := by
  induction l generalizing s with
  | nil => cases h
  | cons a as ih =>
    rw [List.mapM_cons] at h
    rcases ha : (f a).run s with ⟨_ | b, u⟩
    · rw [run_bind_of_error ha] at h
      cases h
      exact ⟨[], a, as, [], s, rfl, rfl, ha⟩
    · rw [run_bind_of_ok ha] at h
      rcases has : (as.mapM f).run u with ⟨_ | bs, v⟩
      · rw [run_bind_of_error has] at h
        cases h
        obtain ⟨before, c, after, bs, w, rfl, hbefore, hc⟩ := ih has
        exact ⟨a :: before, c, after, b :: bs, w, rfl, run_mapM_cons ha hbefore, hc⟩
      · rw [run_bind_of_ok has] at h
        cases h

/-- Two loops come to the same if their items do wherever the one of them gets. -/
theorem mapM_congr {l : List α}
    (h : ∀ before a after bs t, l = before ++ a :: after → (before.mapM f).run s = (.ok bs, t) →
      (g a).run t = (f a).run t) : (l.mapM g).run s = (l.mapM f).run s := by
  induction l generalizing s with
  | nil => rfl
  | cons a as ih =>
    have first : (g a).run s = (f a).run s := h [] a as [] s rfl rfl
    rw [List.mapM_cons, List.mapM_cons]
    rcases ha : (f a).run s with ⟨e | b, t⟩
    · rw [run_bind_of_error ha, run_bind_of_error (first.trans ha)]
    · -- The items after the first have to agree only where it has got to.
      have rest : (as.mapM g).run t = (as.mapM f).run t := by
        refine ih fun before c after bs u has hbefore => ?_
        exact h (a :: before) c after (b :: bs) u (congrArg _ has) (run_mapM_cons ha hbefore)
      rw [run_bind_of_ok ha, run_bind_of_ok (first.trans ha)]
      rcases has : (as.mapM f).run t with ⟨e | bs, u⟩
      · rw [run_bind_of_error has, run_bind_of_error (rest.trans has)]
      · rw [run_bind_of_ok has, run_bind_of_ok (rest.trans has)]

end Attempt

/-! ## Readings of the table -/

def Call.reading? : Call → Option (Except Error Snapshot)
  | .snapshot answer => some answer
  | .send _ _ _ | .probe _ _ | .sleep _ => none

def readings (calls : List Call) : List (Except Error Snapshot) :=
  calls.filterMap Call.reading?

/-- The place of the first reading that failed, counted from one, and why it failed. -/
def firstUnreadable : List (Except Error Snapshot) → Option (Nat × Error)
  | [] => none
  | .error e :: _ => some (1, e)
  | .ok _ :: answers => (firstUnreadable answers).map fun (k, e) => (k + 1, e)

theorem firstUnreadable_ok (read : List Snapshot) : firstUnreadable (read.map .ok) = none := by
  induction read with
  | nil => rfl
  | cons snapshot read ih =>
    rw [List.map_cons, firstUnreadable, ih]
    rfl

theorem firstUnreadable_error (read : List Snapshot) (e : Error)
    (later : List (Except Error Snapshot)) :
    firstUnreadable (read.map .ok ++ .error e :: later) = some (read.length + 1, e) := by
  induction read with
  | nil => rfl
  | cons snapshot read ih =>
    rw [List.map_cons, List.cons_append, firstUnreadable, ih]
    rfl

theorem readings_append (first rest : List Call) :
    readings (first ++ rest) = readings first ++ readings rest :=
  List.filterMap_append

theorem readings_concat (calls : List Call) (last : Except Error Snapshot) :
    readings (calls ++ [.snapshot last]) = readings calls ++ [last] :=
  readings_append calls [.snapshot last]

/-- An escalation never looks at the table. -/
theorem readings_protocol (policy : Policy) (turns : List Turn) :
    readings (protocol policy turns) = [] :=
  List.filterMap_eq_nil_iff.mpr
    (forall_mem_protocol (fun _ _ _ _ => rfl) (fun _ _ _ => rfl) fun _ => rfl)

theorem readings_live (snapshot : Snapshot) (policy : Policy) (turns : List Turn) :
    readings (.snapshot (.ok snapshot) :: protocol policy turns) = [.ok snapshot] := by
  have first : readings (.snapshot (.ok snapshot) :: protocol policy turns) =
      .ok snapshot :: readings (protocol policy turns) := rfl
  rw [first, readings_protocol]

section Readings

variable {sv : Supervisor} {p : Protected} {c : Category} {calls : List Call}

/-- A category reads the table once, before all else. -/
theorem Swept.reads {r : CategoryReport} (h : Swept sv p c (.ok r) calls) :
    ∃ snapshot, readings calls = [.ok snapshot] := by
  cases h with
  | dry snapshot _ => exact ⟨snapshot, rfl⟩
  | live snapshot turns _ _ => exact ⟨snapshot, readings_live snapshot _ turns⟩

theorem Swept.calls_of_error {e : Error} (h : Swept sv p c (.error e) calls) :
    calls = [.snapshot (.error e)] := by
  cases h
  rfl

theorem UntilError.reads {cs : List Category} {reports : List CategoryReport}
    (h : UntilError (Swept sv p) cs (.ok reports) calls) :
    ∃ read : List Snapshot, read.length = cs.length ∧ readings calls = read.map .ok := by
  generalize hanswer : Except.ok reports = answer at h
  induction h generalizing reports with
  | nil => exact ⟨[], rfl, rfl⟩
  | failed => cases hanswer
  | cons swept _ ih =>
    cases hanswer
    obtain ⟨snapshot, hfirst⟩ := swept.reads
    obtain ⟨read, hlength, hrest⟩ := ih rfl
    refine ⟨snapshot :: read, congrArg (· + 1) hlength, ?_⟩
    rw [readings_append, hfirst, hrest]
    rfl
  | later => cases hanswer

/-- A cascade that succeeds has read the table once for each category. -/
theorem Cascaded.reads {cascade : CascadeReport} (h : Cascaded sv p (.ok cascade) calls) :
    ∃ read : List Snapshot, read.length = sv.settings.categories.length ∧
      readings calls = read.map .ok := by
  obtain ⟨reports, hcascade, h⟩ := h
  cases reports with
  | error e => cases hcascade
  | ok reports => exact h.reads

theorem Swept.readings_length {answer : Except Error CategoryReport}
    (h : Swept sv p c answer calls) : (readings calls).length = 1 := by
  cases answer with
  | error e =>
    rw [h.calls_of_error]
    rfl
  | ok r =>
    obtain ⟨snapshot, hread⟩ := h.reads
    rw [hread]
    rfl

theorem UntilError.readings_length_le {cs : List Category}
    {answer : Except Error (List CategoryReport)} (h : UntilError (Swept sv p) cs answer calls) :
    (readings calls).length ≤ cs.length := by
  induction h with
  | nil => exact Nat.le_refl 0
  | failed swept =>
    rw [swept.readings_length, List.length_cons]
    omega
  | cons swept _ ih =>
    rw [readings_append, List.length_append, swept.readings_length, List.length_cons]
    omega
  | later swept _ ih =>
    rw [readings_append, List.length_append, swept.readings_length, List.length_cons]
    omega

/-- In no case does a cascade read the table more than once for a category. -/
theorem Cascaded.readings_length_le {answer : Except Error CascadeReport}
    (h : Cascaded sv p answer calls) :
    (readings calls).length ≤ sv.settings.categories.length := by
  obtain ⟨reports, _, h⟩ := h
  exact h.readings_length_le

end Readings

/-! ## Interrupted cascades -/

namespace Supervisor

/-- The same supervisor with its first so many categories alone. -/
def upTo (sv : Supervisor) (k : Nat) : Supervisor :=
  { sv with settings := { sv.settings with categories := sv.settings.categories.take k } }

/-- Another table that shows each category that is got to what the machine shows it. It may show
the audit something else. -/
def ShowsAlike (sv : Supervisor) (m : Machine σ) (p : Protected) (s : σ)
    (other : StateM σ (Except Error Snapshot)) : Prop :=
  ∀ k < sv.settings.categories.length, ∀ cascade t,
    ((sv.upTo k).cascade m p).run s = (.ok cascade, t) → other t = m.snapshot t

variable {sv : Supervisor} {m : Machine σ} {p : Protected} {s t : σ}

theorem cascade_eq (sv : Supervisor) (m : Machine σ) (p : Protected) :
    sv.cascade m p = (sv.settings.categories.mapM (sv.sweep m p) >>= fun reports =>
      pure { categories := reports }) :=
  rfl

/-- The categories before one of them make a cascade of their own. -/
theorem upTo_cascade {before after : List Category} {c : Category} {reports : List CategoryReport}
    (hcategories : sv.settings.categories = before ++ c :: after)
    (hbefore : (before.mapM (sv.sweep m p)).run s = (.ok reports, t)) :
    ((sv.upTo before.length).cascade m p).run s = (.ok { categories := reports }, t) := by
  have categories : (sv.upTo before.length).settings.categories = before := by
    change sv.settings.categories.take before.length = before
    rw [hcategories, List.take_left]
  rw [cascade_eq, categories]
  exact Attempt.run_bind_of_ok hbefore

theorem length_lt_of_append {before after : List Category} {c : Category}
    (hcategories : sv.settings.categories = before ++ c :: after) :
    before.length < sv.settings.categories.length := by
  rw [hcategories, List.length_append, List.length_cons]
  omega

/-- A cascade that fails has got through the categories before the one that it failed at. -/
theorem cascade_error {e : Error} (h : (sv.cascade m p).run s = (.error e, t)) :
    ∃ k < sv.settings.categories.length, ∃ c cascade u,
      ((sv.upTo k).cascade m p).run s = (.ok cascade, u) ∧
      (sv.sweep m p c).run u = (.error e, t) := by
  have failed : (sv.settings.categories.mapM (sv.sweep m p)).run s = (.error e, t) := by
    rw [cascade_eq] at h
    rcases swept : (sv.settings.categories.mapM (sv.sweep m p)).run s with ⟨_ | reports, u⟩
    · rw [Attempt.run_bind_of_error swept] at h
      cases h
      rfl
    · rw [Attempt.run_bind_of_ok swept] at h
      cases h
  obtain ⟨before, c, after, reports, u, hcategories, hbefore, hc⟩ := Attempt.mapM_error failed
  exact ⟨before.length, length_lt_of_append hcategories, c, _, u,
    upTo_cascade hcategories hbefore, hc⟩

theorem upTo_length {k : Nat} (h : k < sv.settings.categories.length) :
    (sv.upTo k).settings.categories.length = k :=
  List.length_take_of_le (Nat.le_of_lt h)

/-- A category that fails has made no other call than the reading that failed. -/
theorem sweep_error_recorded {c : Category} {e : Error} {log : List Call} {after : σ × List Call}
    (h : (sv.sweep m.recorded p c).run (s, log) = (.error e, after)) :
    after.2 = .snapshot (.error e) :: log := by
  obtain ⟨made, hmade, hrecorded⟩ := sv.sweep_makes m p c s log
  rw [h] at hrecorded
  obtain ⟨hanswer, rfl⟩ := Prod.mk.inj hrecorded
  rw [← hanswer] at hmade
  rw [hmade.calls_of_error]
  rfl

/-- The calls of a failed cascade are those of a cascade over the categories before the one that it
failed at, and then the reading that failed. -/
theorem cascade_interrupted {e : Error} (h : (sv.cascade m p).run s = (.error e, t)) :
    ∃ k < sv.settings.categories.length, ∃ cascade u log,
      ((sv.upTo k).cascade m.recorded p).run (s, []) = (.ok cascade, (u, log)) ∧
      (sv.cascade m.recorded p).run (s, []) = (.error e, (t, .snapshot (.error e) :: log)) := by
  obtain ⟨made, _, hrecorded⟩ := sv.cascade_makes m p s []
  rw [h] at hrecorded
  obtain ⟨k, hk, c, cascade, ⟨u, log⟩, hbefore, hc⟩ := cascade_error hrecorded
  have calls : made.reverse ++ [] = .snapshot (.error e) :: log := sweep_error_recorded hc
  rw [calls] at hrecorded
  exact ⟨k, hk, cascade, u, log, hbefore, hrecorded⟩

/-- What a watched cascade is known by: its answer, its calls and the state that it leaves. -/
theorem cascaded_of_watched {answer : Except Error CascadeReport} {calls : List Call}
    (h : watched (sv.cascade m.recorded p).run s = ((answer, calls), t)) :
    Cascaded sv p answer calls ∧ (sv.cascade m p).run s = (answer, t) := by
  obtain ⟨made, hwatched, hmade⟩ := (sv.cascade_makes m p).watched_eq s
  rw [h] at hwatched
  obtain ⟨rfl, rfl⟩ := Prod.mk.inj (Prod.mk.inj hwatched).1
  exact ⟨hmade, (sv.cascade_makes m p).eq_of_watched h⟩

/-! ## Two tables -/

section Alike

variable {other : StateM σ (Except Error Snapshot)}

theorem sweep_congr {c : Category} (h : other s = m.snapshot s) :
    (sv.sweep { m with snapshot := other } p c).run s = (sv.sweep m p c).run s := by
  have step (f : Snapshot → Attempt σ CategoryReport) :
      (ExceptT.mk other >>= f).run s = (ExceptT.mk m.snapshot >>= f).run s := by
    change ExceptT.bindCont f (other s).1 (other s).2 = _
    rw [h]
    rfl
  rw [sweep_eq, sweep_eq]
  exact step _

theorem cascade_congr (h : sv.ShowsAlike m p s other) :
    (sv.cascade { m with snapshot := other } p).run s = (sv.cascade m p).run s := by
  have swept : (sv.settings.categories.mapM (sv.sweep { m with snapshot := other } p)).run s =
      (sv.settings.categories.mapM (sv.sweep m p)).run s := by
    refine Attempt.mapM_congr fun before c after reports t hcategories hbefore => sweep_congr ?_
    exact h before.length (length_lt_of_append hcategories) _ t (upTo_cascade hcategories hbefore)
  rw [cascade_eq, cascade_eq]
  rcases hm : (sv.settings.categories.mapM (sv.sweep m p)).run s with ⟨e | reports, t⟩
  · rw [Attempt.run_bind_of_error hm, Attempt.run_bind_of_error (swept.trans hm)]
  · rw [Attempt.run_bind_of_ok hm, Attempt.run_bind_of_ok (swept.trans hm)]

end Alike

/-! ## Whole runs -/

theorem run_of_cascade_error {e : Error} (h : (sv.cascade m p).run s = (.error e, t)) :
    (sv.run m p).run s = (.error e, t) := by
  rw [run_eq]
  exact Attempt.run_bind_of_error h

theorem run_of_cascade_ok {cascade : CascadeReport}
    (h : (sv.cascade m p).run s = (.ok cascade, t)) :
    (sv.run m p).run s =
      (.ok (cascade, .ofAudit ((sv.audit m p).run t).1), ((sv.audit m p).run t).2) := by
  rw [run_eq, Attempt.run_bind_of_ok h]
  rfl

/-- An audit reads the table and does nothing else. -/
theorem audit_run (sv : Supervisor) (m : Machine σ) (p : Protected) (s : σ) :
    (sv.audit m p).run s = ((m.snapshot s).1.map fun snapshot =>
      { survivors := sv.settings.categories.flatMap (survivors p snapshot) },
      (m.snapshot s).2) := by
  rcases h : m.snapshot s with ⟨e | snapshot, t⟩
  · exact Attempt.run_bind_of_error h
  · exact Attempt.run_bind_of_ok h

/-- What a run comes to when the table could not be read for category number `k`: it fails as its
cascade does, after the calls of a cascade over the categories before. -/
structure Interrupted (sv : Supervisor) (m : Machine σ) (p : Protected) (s : σ) (k : Nat)
    (e : Error) (answer : Except Error (CascadeReport × AuditReport)) (calls : List Call) :
    Prop where
  failed : answer = .error e
  readings_length : (readings calls).length = k
  cascade : ∃ t, watched (sv.cascade m.recorded p).run s = ((.error e, calls), t)
  before : ∃ cascade first t,
    watched ((sv.upTo (k - 1)).cascade m.recorded p).run s = ((.ok cascade, first), t) ∧
    calls = first ++ [.snapshot (.error e)]

/-- The calls of a run that came to its end: those of its cascade, which read the table once for
each category, and one more reading for the audit. -/
structure Completed (sv : Supervisor) (m : Machine σ) (p : Protected) (s : σ)
    (cascade : CascadeReport) (last : Except Error Snapshot) (calls : List Call) : Prop where
  readings_length : (readings calls).length = sv.settings.categories.length + 1
  cascade : ∃ first t, watched (sv.cascade m.recorded p).run s = ((.ok cascade, first), t) ∧
    (readings first).length = sv.settings.categories.length ∧
    calls = first ++ [.snapshot last]

/-- What a run comes to when the table could not be read for the audit: an audit that says why, and
the cascade that would have been reported with any other audit. -/
structure Unaudited (sv : Supervisor) (m : Machine σ) (p : Protected) (s : σ) (e : Error)
    (cascade : CascadeReport) (audit : AuditReport) : Prop where
  error : audit.error = some e.message
  survivors : audit.survivors = []
  unclean : audit.isClean = false
  alike : ∃ t, (sv.cascade m p).run s = (.ok cascade, t) ∧
    ∀ other, sv.ShowsAlike m p s other → ∀ snapshot, (other t).1 = .ok snapshot →
      ∃ audit, ((sv.run { m with snapshot := other } p).run s).1 = .ok (cascade, audit) ∧
        audit.error = none

theorem run_interrupted {e : Error} (h : (sv.cascade m p).run s = (.error e, t)) :
    ∃ calls, watched (sv.run m.recorded p).run s = ((.error e, calls), t) ∧
      ∃ k ≤ sv.settings.categories.length, firstUnreadable (readings calls) = some (k, e) ∧
        sv.Interrupted m p s k e (.error e) calls := by
  obtain ⟨k, hk, cascade, u, log, hbefore, hrecorded⟩ := cascade_interrupted h
  have before := watched_of_eq hbefore
  obtain ⟨read, hlength, hread⟩ := (cascaded_of_watched before).1.reads
  have all : readings (log.reverse ++ [.snapshot (.error e)]) = read.map .ok ++ [.error e] := by
    rw [readings_concat, hread]
  rw [upTo_length hk] at hlength
  refine ⟨log.reverse ++ [.snapshot (.error e)], ?_, k + 1, hk, ?_, rfl, ?_, ⟨t, ?_⟩, ?_⟩
  · rw [watched_of_eq (run_of_cascade_error hrecorded), List.reverse_cons]
  · rw [all, ← hlength]
    exact firstUnreadable_error read e []
  · rw [all, List.length_append, List.length_map, hlength]
    rfl
  · rw [watched_of_eq hrecorded, List.reverse_cons]
  · exact ⟨cascade, log.reverse, u, before, rfl⟩

theorem run_alike {cascade : CascadeReport} {other : StateM σ (Except Error Snapshot)}
    {snapshot : Snapshot} (h : (sv.cascade m p).run s = (.ok cascade, t))
    (alike : sv.ShowsAlike m p s other) (hother : (other t).1 = .ok snapshot) :
    ∃ audit, ((sv.run { m with snapshot := other } p).run s).1 = .ok (cascade, audit) ∧
      audit.error = none := by
  have hcascade := (cascade_congr alike).trans h
  rw [run_of_cascade_ok hcascade, audit_run]
  change ∃ audit, Except.ok (cascade, AuditReport.ofAudit ((other t).1.map _)) =
    .ok (cascade, audit) ∧ audit.error = none
  rw [hother]
  exact ⟨_, rfl, rfl⟩

theorem run_uninterrupted {cascade : CascadeReport}
    (h : (sv.cascade m p).run s = (.ok cascade, t)) :
    ∃ audit calls last u,
      watched (sv.run m.recorded p).run s = ((.ok (cascade, audit), calls), u) ∧
      (sv.run m p).run s = (.ok (cascade, audit), u) ∧ sv.Completed m p s cascade last calls ∧
      match last with
      | .ok _ => firstUnreadable (readings calls) = none ∧ audit.error = none
      | .error e => firstUnreadable (readings calls) =
          some (sv.settings.categories.length + 1, e) ∧ sv.Unaudited m p s e cascade audit := by
  obtain ⟨made, hmade, hrecorded⟩ := sv.cascade_makes m p s []
  rw [h] at hmade
  rw [h, List.append_nil] at hrecorded
  obtain ⟨read, hlength, hread⟩ := hmade.reads
  rcases seen : m.snapshot t with ⟨last, u⟩
  -- On the recorded machine the audit adds its one reading to the calls of the cascade.
  have noted : m.recorded.snapshot (t, made.reverse) =
      (last, u, .snapshot last :: made.reverse) := by
    change ((m.snapshot t).1, (m.snapshot t).2, Call.snapshot (m.snapshot t).1 :: made.reverse) = _
    rw [seen]
  have hcascade := watched_of_eq hrecorded
  have hwatched := run_of_cascade_ok hrecorded
  have hrun := run_of_cascade_ok h
  rw [audit_run, noted] at hwatched
  rw [audit_run, seen] at hrun
  rw [List.reverse_reverse] at hcascade
  have all : readings (made ++ [.snapshot last]) = read.map .ok ++ [last] := by
    rw [readings_concat, hread]
  refine ⟨_, made ++ [.snapshot last], last, u, ?_, hrun, ⟨?_, made, t, hcascade, ?_, rfl⟩, ?_⟩
  · rw [watched_of_eq hwatched, List.reverse_cons, List.reverse_reverse]
  · rw [all, List.length_append, List.length_map, hlength]
    rfl
  · rw [hread, List.length_map, hlength]
  · rw [all, ← hlength]
    cases last with
    | ok snapshot =>
      have readable := firstUnreadable_ok (read ++ [snapshot])
      rw [List.map_append] at readable
      exact ⟨readable, rfl⟩
    | error e =>
      exact ⟨firstUnreadable_error read e [], rfl, rfl, rfl, t, h,
        fun _ alike _ hother => run_alike h alike hother⟩

/-- A run stops exactly where the table cannot be read. Otherwise it reads the table once for each
category and once more for the audit. -/
theorem run_stops_where_unreadable (sv : Supervisor) (m : Machine σ) (p : Protected) (s : σ) :
    ∃ answer calls t, watched (sv.run m.recorded p).run s = ((answer, calls), t) ∧
      (sv.run m p).run s = (answer, t) ∧
      (match firstUnreadable (readings calls) with
        | none => ∃ cascade audit snapshot, answer = .ok (cascade, audit) ∧ audit.error = none ∧
          sv.Completed m p s cascade (.ok snapshot) calls
        | some (k, e) =>
          (k ≤ sv.settings.categories.length ∧ sv.Interrupted m p s k e answer calls) ∨
          (k = sv.settings.categories.length + 1 ∧
            ∃ cascade audit, answer = .ok (cascade, audit) ∧
              sv.Completed m p s cascade (.error e) calls ∧
              sv.Unaudited m p s e cascade audit)) ∧
      ((∃ e, answer = .error e) ↔
        ∃ k e, firstUnreadable (readings calls) = some (k, e) ∧
          k ≤ sv.settings.categories.length) := by
  rcases h : (sv.cascade m p).run s with ⟨e | cascade, t⟩
  · obtain ⟨calls, hwatched, k, hk, hfirst, interrupted⟩ := run_interrupted h
    refine ⟨.error e, calls, t, hwatched, run_of_cascade_error h, ?_, ?_⟩
    · rw [hfirst]
      exact .inl ⟨hk, interrupted⟩
    · exact ⟨fun _ => ⟨k, e, hfirst, hk⟩, fun _ => ⟨e, rfl⟩⟩
  · obtain ⟨audit, calls, last, u, hwatched, hrun, completed, hlast⟩ := run_uninterrupted h
    refine ⟨.ok (cascade, audit), calls, u, hwatched, hrun, ?_⟩
    cases last with
    | ok snapshot =>
      obtain ⟨hfirst, hnone⟩ := hlast
      rw [hfirst]
      exact ⟨⟨cascade, audit, snapshot, rfl, hnone, completed⟩, by simp⟩
    | error e =>
      obtain ⟨hfirst, unaudited⟩ := hlast
      rw [hfirst]
      exact ⟨.inr ⟨rfl, cascade, audit, rfl, completed, unaudited⟩, by simp⟩

end Supervisor

end Straggler
