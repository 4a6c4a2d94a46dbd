import Mathlib.Data.List.Forall2
import Straggler.Supervisor

/-!
# Recorded computations

`Makes x y fits` ties a computation on a machine to the same one on the recorded machine: the
record changes neither the answer nor the state, it only grows, and the calls it grows by fit the
answer. What is said of the calls is put together from the parts of a computation, so a claim on
the calls of a whole cascade comes down to claims on single calls.

Nothing is assumed of the machine, whose answers may depend on all that came before.
-/

namespace Straggler

set_option autoImplicit false

variable {σ α β : Type}

theorem bind_apply (x : StateM σ α) (f : α → StateM σ β) (s : σ) :
    (x >>= f) s = f (x s).1 (x s).2 :=
  rfl

/-- A computation on the recorded machine, with the calls it makes. -/
def watched (y : StateM (σ × List Call) α) : StateM σ (α × List Call) := fun s =>
  (((y (s, [])).1, (y (s, [])).2.2.reverse), (y (s, [])).2.1)

theorem watched_of_eq {y : StateM (σ × List Call) α} {s t : σ} {a : α} {calls : List Call}
    (h : y (s, []) = (a, t, calls)) : watched y s = ((a, calls.reverse), t) := by
  rw [watched, h]

/-- `x` and `y` are the same computation without and with a record, which is kept latest first. -/
def Makes (x : StateM σ α) (y : StateM (σ × List Call) α) (fits : α → List Call → Prop) : Prop :=
  ∀ s calls, ∃ made, fits (x s).1 made ∧ y (s, calls) = ((x s).1, (x s).2, made.reverse ++ calls)

/-- Computations on the items of a list, one after the other, with their answers and calls. -/
inductive InTurn (fits : α → β → List Call → Prop) : List α → List β → List Call → Prop
  | nil : InTurn fits [] [] []
  | cons {a : α} {b : β} {first rest : List Call} {as : List α} {bs : List β} :
      fits a b first → InTurn fits as bs rest → InTurn fits (a :: as) (b :: bs) (first ++ rest)

/-- The same for computations that may fail. None is made after one that failed. -/
inductive UntilError (fits : α → Except Error β → List Call → Prop) :
    List α → Except Error (List β) → List Call → Prop
  | nil : UntilError fits [] (.ok []) []
  | failed {a : α} {e : Error} {calls : List Call} {as : List α} :
      fits a (.error e) calls → UntilError fits (a :: as) (.error e) calls
  | cons {a : α} {b : β} {first rest : List Call} {as : List α} {bs : List β} :
      fits a (.ok b) first → UntilError fits as (.ok bs) rest →
      UntilError fits (a :: as) (.ok (b :: bs)) (first ++ rest)
  | later {a : α} {b : β} {e : Error} {first rest : List Call} {as : List α} :
      fits a (.ok b) first → UntilError fits as (.error e) rest →
      UntilError fits (a :: as) (.error e) (first ++ rest)

namespace Makes

theorem snapshot (m : Machine σ) :
    Makes m.snapshot m.recorded.snapshot fun answer calls => calls = [.snapshot answer] :=
  fun _ _ => ⟨_, rfl, rfl⟩

theorem send (m : Machine σ) (pid : Pid) (signal : Signal) :
    Makes (m.send pid signal) (m.recorded.send pid signal) fun delivery calls =>
      calls = [.send pid signal delivery] :=
  fun _ _ => ⟨_, rfl, rfl⟩

theorem isAlive (m : Machine σ) (pid : Pid) :
    Makes (m.isAlive pid) (m.recorded.isAlive pid) fun alive calls => calls = [.probe pid alive] :=
  fun _ _ => ⟨_, rfl, rfl⟩

theorem sleep (m : Machine σ) (ms : Nat) :
    Makes (m.sleep ms) (m.recorded.sleep ms) fun _ calls => calls = [.sleep ms] :=
  fun _ _ => ⟨_, rfl, rfl⟩

protected theorem pure (a : α) :
    Makes (pure a : StateM σ α) (pure a) fun b calls => b = a ∧ calls = [] :=
  fun _ _ => ⟨[], ⟨rfl, rfl⟩, rfl⟩

variable {x : StateM σ α} {y : StateM (σ × List Call) α} {fits : α → List Call → Prop}

theorem mono {fits' : α → List Call → Prop} (h : Makes x y fits)
    (imp : ∀ a calls, fits a calls → fits' a calls) : Makes x y fits' := by
  intro s calls
  obtain ⟨made, hmade, hy⟩ := h s calls
  exact ⟨made, imp _ _ hmade, hy⟩

protected theorem bind {f : α → StateM σ β} {g : α → StateM (σ × List Call) β}
    (h : Makes x y fits) (next : α → β → List Call → Prop) (hf : ∀ a, Makes (f a) (g a) (next a)) :
    Makes (x >>= f) (y >>= g) fun b calls =>
      ∃ a first rest, fits a first ∧ next a b rest ∧ calls = first ++ rest := by
  intro s calls
  obtain ⟨first, hfirst, hy⟩ := h s calls
  obtain ⟨rest, hrest, hg⟩ := hf (x s).1 (x s).2 (first.reverse ++ calls)
  refine ⟨first ++ rest, ⟨_, first, rest, hfirst, hrest, rfl⟩, ?_⟩
  calc (y >>= g) (s, calls)
      = g (y (s, calls)).1 (y (s, calls)).2 := bind_apply y g _
    _ = g (x s).1 ((x s).2, first.reverse ++ calls) := by rw [hy]
    _ = ((f (x s).1 (x s).2).1, (f (x s).1 (x s).2).2, (first ++ rest).reverse ++ calls) := by
      rw [hg, List.reverse_append, List.append_assoc]

protected theorem map (h : Makes x y fits) (f : α → β) :
    Makes (do return f (← x)) (do return f (← y)) fun b calls => ∃ a, fits a calls ∧ b = f a := by
  refine (h.bind _ fun a => Makes.pure (f a)).mono ?_
  rintro _ _ ⟨a, calls, _, hcalls, ⟨rfl, rfl⟩, rfl⟩
  rw [List.append_nil]
  exact ⟨a, hcalls, rfl⟩

protected theorem mapM {f : α → StateM σ β} {g : α → StateM (σ × List Call) β}
    {each : α → β → List Call → Prop} (h : ∀ a, Makes (f a) (g a) (each a)) (l : List α) :
    Makes (l.mapM f) (l.mapM g) (InTurn each l) := by
  induction l with
  | nil =>
    rw [List.mapM_nil, List.mapM_nil]
    refine (Makes.pure []).mono ?_
    rintro bs calls ⟨rfl, rfl⟩
    exact .nil
  | cons a as ih =>
    rw [List.mapM_cons, List.mapM_cons]
    refine ((h a).bind _ fun b => ih.map (b :: ·)).mono ?_
    rintro _ _ ⟨b, first, rest, hb, ⟨bs, hbs, rfl⟩, rfl⟩
    exact .cons hb hbs

theorem watched_eq (h : Makes x y fits) (s : σ) :
    ∃ made, watched y s = (((x s).1, made), (x s).2) ∧ fits (x s).1 made := by
  obtain ⟨made, hmade, hy⟩ := h s []
  refine ⟨made, ?_, hmade⟩
  rw [watched, hy, List.append_nil, List.reverse_reverse]

theorem eq_of_watched (h : Makes x y fits) {s t : σ} {a : α} {calls : List Call}
    (hwatched : watched y s = ((a, calls), t)) : x s = (a, t) := by
  obtain ⟨made, hmade, _⟩ := h.watched_eq s
  rw [hwatched] at hmade
  obtain ⟨hanswer, hstate⟩ := Prod.mk.inj hmade
  exact Prod.ext (Prod.mk.inj hanswer).1.symm hstate.symm

/-- Each of several computations in turn can be watched for itself. -/
theorem watched_mapM {f : α → StateM σ β} {g : α → StateM (σ × List Call) β}
    {each : α → β → List Call → Prop} (h : ∀ a, Makes (f a) (g a) (each a)) (l : List α) (s : σ) :
    ∃ seen : List (β × List Call), (l.mapM fun a => watched (g a)) s = (seen, (l.mapM f s).2) ∧
      seen.map (·.1) = (l.mapM f s).1 ∧ List.Forall₂ (fun a b => each a b.1 b.2) l seen := by
  induction l generalizing s with
  | nil => exact ⟨[], rfl, rfl, .nil⟩
  | cons a as ih =>
    obtain ⟨made, hwatched, hmade⟩ := (h a).watched_eq s
    obtain ⟨seen, hrest, hanswers, hseen⟩ := ih (f a s).2
    refine ⟨((f a s).1, made) :: seen, ?_, ?_, .cons hmade hseen⟩
    · rw [List.mapM_cons, List.mapM_cons, bind_apply, hwatched, bind_apply, hrest]
      rfl
    · rw [List.mapM_cons, List.map_cons, hanswers]
      rfl

end Makes

/-! ## Computations that may fail -/

namespace UntilError

variable {fits : α → Except Error β → List Call → Prop} {as : List α}

theorem forall_calls {P : Call → Prop} {answer : Except Error (List β)} {calls : List Call}
    (h : UntilError fits as answer calls)
    (each : ∀ a b part, fits a b part → ∀ call ∈ part, P call) : ∀ call ∈ calls, P call := by
  induction h with
  | nil => exact List.forall_mem_nil P
  | failed h => exact each _ _ _ h
  | cons h _ ih => exact List.forall_mem_append.mpr ⟨each _ _ _ h, ih⟩
  | later h _ ih => exact List.forall_mem_append.mpr ⟨each _ _ _ h, ih⟩

theorem forall_answers {P : β → Prop} {bs : List β} {calls : List Call}
    (h : UntilError fits as (.ok bs) calls)
    (each : ∀ a b part, fits a (.ok b) part → P b) : ∀ b ∈ bs, P b := by
  generalize hanswer : Except.ok bs = answer at h
  induction h generalizing bs with
  | nil =>
    cases hanswer
    exact List.forall_mem_nil P
  | failed => cases hanswer
  | cons h _ ih =>
    cases hanswer
    exact List.forall_mem_cons.mpr ⟨each _ _ _ h, ih rfl⟩
  | later => cases hanswer

/-- With an answer from the last of them, each of the computations has been made. -/
theorem inTurn {bs : List β} {calls : List Call} (h : UntilError fits as (.ok bs) calls) :
    InTurn (fun a b part => fits a (.ok b) part) as bs calls := by
  generalize hanswer : Except.ok bs = answer at h
  induction h generalizing bs with
  | nil =>
    cases hanswer
    exact .nil
  | failed => cases hanswer
  | cons h _ ih =>
    cases hanswer
    exact .cons h (ih rfl)
  | later => cases hanswer

end UntilError

namespace Makes

variable {x : Attempt σ α} {y : Attempt (σ × List Call) α}
  {fits : Except Error α → List Call → Prop}

theorem lift {x : StateM σ α} {y : StateM (σ × List Call) α} {fits : α → List Call → Prop}
    (h : Makes x y fits) :
    Makes (ExceptT.lift x : Attempt σ α).run (ExceptT.lift y : Attempt _ α).run fun answer calls =>
      ∃ a, answer = .ok a ∧ fits a calls := by
  intro s calls
  obtain ⟨made, hmade, hy⟩ := h s calls
  refine ⟨made, ⟨_, rfl, hmade⟩, ?_⟩
  change (Except.ok (y (s, calls)).1, (y (s, calls)).2) = _
  rw [hy]
  rfl

theorem pureAttempt (a : α) :
    Makes (pure a : Attempt σ α).run (pure a : Attempt _ α).run fun answer calls =>
      answer = .ok a ∧ calls = [] :=
  Makes.pure (Except.ok a)

theorem bindAttempt {f : α → Attempt σ β} {g : α → Attempt (σ × List Call) β}
    (h : Makes x.run y.run fits) (next : α → Except Error β → List Call → Prop)
    (hf : ∀ a, Makes (f a).run (g a).run (next a)) :
    Makes (x >>= f).run (y >>= g).run fun answer calls =>
      (∃ e, answer = .error e ∧ fits (.error e) calls) ∨
      ∃ a first rest, fits (.ok a) first ∧ next a answer rest ∧ calls = first ++ rest := by
  -- What follows an answer makes no call if the answer is an error.
  have step : ∀ answer : Except Error α, Makes (ExceptT.bindCont f answer)
      (ExceptT.bindCont g answer) fun b calls => match answer with
        | .ok a => next a b calls
        | .error e => b = .error e ∧ calls = [] := by
    intro answer
    cases answer with
    | ok a => exact hf a
    | error e => exact Makes.pure (Except.error e)
  refine (h.bind _ step).mono ?_
  rintro b _ ⟨answer, first, rest, hfirst, hrest, rfl⟩
  cases answer with
  | ok a => exact .inr ⟨a, first, rest, hfirst, hrest, rfl⟩
  | error e =>
    obtain ⟨rfl, rfl⟩ := hrest
    exact .inl ⟨e, rfl, by rwa [List.append_nil]⟩

theorem mapAttempt (h : Makes x.run y.run fits) (f : α → β) :
    Makes (x >>= fun a => pure (f a)).run (y >>= fun a => pure (f a)).run fun answer calls =>
      ∃ a, fits a calls ∧ answer = a.map f := by
  refine (h.bindAttempt _ fun a => pureAttempt (f a)).mono ?_
  rintro _ _ (⟨e, rfl, he⟩ | ⟨a, calls, _, ha, ⟨rfl, rfl⟩, rfl⟩)
  · exact ⟨.error e, he, rfl⟩
  · rw [List.append_nil]
    exact ⟨.ok a, ha, rfl⟩

theorem mapMAttempt {f : α → Attempt σ β} {g : α → Attempt (σ × List Call) β}
    {each : α → Except Error β → List Call → Prop} (h : ∀ a, Makes (f a).run (g a).run (each a))
    (l : List α) : Makes (l.mapM f).run (l.mapM g).run (UntilError each l) := by
  induction l with
  | nil =>
    rw [List.mapM_nil, List.mapM_nil]
    refine (pureAttempt []).mono ?_
    rintro _ _ ⟨rfl, rfl⟩
    exact .nil
  | cons a as ih =>
    rw [List.mapM_cons, List.mapM_cons]
    refine ((h a).bindAttempt _ fun b => ih.mapAttempt (b :: ·)).mono ?_
    rintro _ _ (⟨e, rfl, he⟩ | ⟨b, first, rest, hb, ⟨bs, hbs, rfl⟩, rfl⟩)
    · exact .failed he
    · cases bs with
      | error e => exact .later hb hbs
      | ok bs => exact .cons hb hbs

end Makes

end Straggler
