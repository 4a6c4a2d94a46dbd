import Mathlib.Data.List.Forall2
import Straggler.Supervisor

/-!
# Where computations end

`Ends x s Q` says of the answer and the state that `x` comes to from `s` that they satisfy `Q`, and
`Succeeds x s Q` that an attempt does not fail and then satisfies `Q`. A loop is taken one item
after the other: what is known before and after an item has to be stable under the relation by
which all the items change the state, and then it still holds when the loop is over.
-/

set_option autoImplicit false

variable {σ α β : Type}

theorem List.Forall₂.exists_of_mem_left {P : α → β → Prop} {as : List α} {bs : List β} {a : α}
    (h : List.Forall₂ P as bs) (ha : a ∈ as) : ∃ b ∈ bs, P a b := by
  induction h with
  | nil => cases ha
  | cons hab _ ih =>
    rcases List.mem_cons.mp ha with rfl | ha
    · exact ⟨_, List.mem_cons_self, hab⟩
    · obtain ⟨b, hb, hP⟩ := ih ha
      exact ⟨b, List.mem_cons_of_mem _ hb, hP⟩

theorem List.Forall₂.exists_of_mem_right {P : α → β → Prop} {as : List α} {bs : List β} {b : β}
    (h : List.Forall₂ P as bs) (hb : b ∈ bs) : ∃ a ∈ as, P a b :=
  h.flip.exists_of_mem_left hb

namespace Straggler

def Ends (x : StateM σ α) (s : σ) (Q : α → σ → Prop) : Prop :=
  Q (x s).1 (x s).2

def Succeeds (x : Attempt σ α) (s : σ) (Q : α → σ → Prop) : Prop :=
  ∃ a t, x.run s = (.ok a, t) ∧ Q a t

namespace Ends

variable {x : StateM σ α} {s : σ} {P : α → σ → Prop}

protected theorem bind {f : α → StateM σ β} {Q : β → σ → Prop} (h : Ends x s P)
    (hf : ∀ a t, P a t → Ends (f a) t Q) : Ends (x >>= f) s Q :=
  hf _ _ h

end Ends

namespace Succeeds

variable {x : Attempt σ α} {s : σ} {P Q : α → σ → Prop}

protected theorem pure {a : α} (h : Q a s) : Succeeds (pure a) s Q :=
  ⟨a, s, rfl, h⟩

theorem lift {x : StateM σ α} (h : Ends x s Q) : Succeeds (ExceptT.lift x) s Q :=
  ⟨(x s).1, (x s).2, rfl, h⟩

protected theorem bind {f : α → Attempt σ β} {Q : β → σ → Prop} (h : Succeeds x s P)
    (hf : ∀ a t, P a t → Succeeds (f a) t Q) : Succeeds (x >>= f) s Q := by
  obtain ⟨a, t, hx, ha⟩ := h
  obtain ⟨b, u, hrun, hb⟩ := hf a t ha
  refine ⟨b, u, ?_, hb⟩
  calc (x >>= f).run s
      = ExceptT.bindCont f (x.run s).1 (x.run s).2 := rfl
    _ = (f a).run t := by rw [hx]; rfl
    _ = (.ok b, u) := hrun

protected theorem and (hP : Succeeds x s P) (hQ : Succeeds x s Q) :
    Succeeds x s fun a t => P a t ∧ Q a t := by
  obtain ⟨a, t, hx, ha⟩ := hP
  obtain ⟨b, u, hx', hb⟩ := hQ
  obtain ⟨⟨⟩, rfl⟩ := Prod.mk.inj (hx.symm.trans hx')
  exact ⟨a, t, hx, ha, hb⟩

end Succeeds

/-! ## Loops -/

section Loops

variable (R : σ → σ → Prop) (pre : α → σ → Prop) (post : α → β → σ → Prop)
variable (refl : ∀ s, R s s) (trans : ∀ {s t u}, R s t → R t u → R s u)
variable (pre_stable : ∀ {a s t}, R s t → pre a s → pre a t)
variable (post_stable : ∀ {a b s t}, R s t → post a b s → post a b t)
include refl trans pre_stable post_stable

theorem Ends.mapM {f : α → StateM σ β}
    (step : ∀ a s, pre a s → Ends (f a) s fun b t => R s t ∧ post a b t) {l : List α} {s : σ}
    (hpre : ∀ a ∈ l, pre a s) :
    Ends (l.mapM f) s fun bs t => R s t ∧ List.Forall₂ (fun a b => post a b t) l bs := by
  induction l generalizing s with
  | nil => exact ⟨refl s, .nil⟩
  | cons a as ih =>
    obtain ⟨ha, has⟩ := List.forall_mem_cons.mp hpre
    rw [List.mapM_cons]
    refine (step a s ha).bind fun b t ⟨hst, hb⟩ => ?_
    refine (ih fun a' h => pre_stable hst (has a' h)).bind fun bs u ⟨htu, hbs⟩ => ?_
    exact ⟨trans hst htu, .cons (post_stable htu hb) hbs⟩

theorem Succeeds.mapM {f : α → Attempt σ β}
    (step : ∀ a s, pre a s → Succeeds (f a) s fun b t => R s t ∧ post a b t) {l : List α} {s : σ}
    (hpre : ∀ a ∈ l, pre a s) :
    Succeeds (l.mapM f) s fun bs t => R s t ∧ List.Forall₂ (fun a b => post a b t) l bs := by
  induction l generalizing s with
  | nil => exact .pure ⟨refl s, .nil⟩
  | cons a as ih =>
    obtain ⟨ha, has⟩ := List.forall_mem_cons.mp hpre
    rw [List.mapM_cons]
    refine (step a s ha).bind fun b t ⟨hst, hb⟩ => ?_
    refine (ih fun a' h => pre_stable hst (has a' h)).bind fun bs u ⟨htu, hbs⟩ => ?_
    exact .pure ⟨trans hst htu, .cons (post_stable htu hb) hbs⟩

end Loops

/-- Steps on the items of a list, each from where the one before it ended. -/
inductive Chained (step : α → σ → β → σ → Prop) : List α → σ → List β → σ → Prop
  | nil (s : σ) : Chained step [] s [] s
  | cons {a : α} {b : β} {as : List α} {bs : List β} {s t u : σ} :
      step a s b t → Chained step as t bs u → Chained step (a :: as) s (b :: bs) u

theorem Chained.length_eq {step : α → σ → β → σ → Prop} {as : List α} {bs : List β} {s t : σ}
    (h : Chained step as s bs t) : bs.length = as.length := by
  induction h with
  | nil => rfl
  | cons _ _ ih => rw [List.length_cons, List.length_cons, ih]

theorem Succeeds.chained {step : α → σ → β → σ → Prop} {f : α → Attempt σ β}
    (h : ∀ a s, Succeeds (f a) s (step a s)) (l : List α) (s : σ) :
    Succeeds (l.mapM f) s fun bs t => Chained step l s bs t := by
  induction l generalizing s with
  | nil => exact .pure (.nil s)
  | cons a as ih =>
    rw [List.mapM_cons]
    refine (h a s).bind fun b t hb => ?_
    refine (ih t).bind fun bs u hbs => ?_
    exact .pure (.cons hb hbs)

end Straggler
