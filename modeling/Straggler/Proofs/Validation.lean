import Mathlib.Data.List.Forall2
import Straggler.Config

/-!
# Validation

A configuration becomes settings exactly if every pattern makes a rule of its kind and both names
are names of signals. Then the settings hold all that was configured, in its order. Otherwise they
fail at the first item that is not valid: the categories are looked at as they are declared, and
the two signals after them.
-/

namespace Straggler

set_option autoImplicit false

/-! ## Steps and loops that may fail -/

section Failing

variable {ε α β : Type} {x : Except ε α} {f : α → Except ε β} {e : ε}

theorem bind_eq_ok_iff {b : β} : x >>= f = .ok b ↔ ∃ a, x = .ok a ∧ f a = .ok b := by
  cases x <;> simp [bind, Except.bind]

theorem bind_eq_error_iff :
    x >>= f = .error e ↔ x = .error e ∨ ∃ a, x = .ok a ∧ f a = .error e := by
  cases x <;> simp [bind, Except.bind]

theorem pure_eq_ok_iff {a b : α} : (pure a : Except ε α) = .ok b ↔ a = b :=
  ⟨Except.ok.inj, congrArg _⟩

theorem pure_ne_error {a : α} : (pure a : Except ε α) ≠ .error e := nofun

variable {l : List α}

theorem mapM_eq_ok_iff {bs : List β} :
    l.mapM f = .ok bs ↔ List.Forall₂ (fun a b => f a = .ok b) l bs := by
  induction l generalizing bs with
  | nil =>
    rw [List.mapM_nil, pure_eq_ok_iff, List.forall₂_nil_left_iff]
    exact eq_comm
  | cons a as ih =>
    simp only [List.mapM_cons, bind_eq_ok_iff, pure_eq_ok_iff, ih, List.forall₂_cons_left_iff]
    constructor
    · rintro ⟨b, ha, cs, has, rfl⟩
      exact ⟨b, cs, ha, has, rfl⟩
    · rintro ⟨b, cs, ha, has, rfl⟩
      exact ⟨b, ha, cs, has, rfl⟩

theorem exists_mapM_eq_ok_iff : (∃ bs, l.mapM f = .ok bs) ↔ ∀ a ∈ l, ∃ b, f a = .ok b := by
  induction l with
  | nil => simp [pure_eq_ok_iff]
  | cons a as ih =>
    rw [List.forall_mem_cons, ← ih]
    simp only [List.mapM_cons, bind_eq_ok_iff, pure_eq_ok_iff]
    constructor
    · rintro ⟨-, b, ha, bs, has, -⟩
      exact ⟨⟨b, ha⟩, bs, has⟩
    · rintro ⟨⟨b, ha⟩, bs, has⟩
      exact ⟨b :: bs, b, ha, bs, has, rfl⟩

/-- A loop fails at the first item that does. -/
theorem mapM_eq_error_iff :
    l.mapM f = .error e ↔ ∃ before a after, l = before ++ a :: after ∧
      (∀ b ∈ before, ∃ c, f b = .ok c) ∧ f a = .error e := by
  induction l with
  | nil =>
    rw [List.mapM_nil, iff_false_left pure_ne_error]
    rintro ⟨before, a, after, h, -⟩
    cases before <;> cases h
  | cons a as ih =>
    simp only [List.mapM_cons, bind_eq_error_iff, pure_ne_error, ih, and_false, exists_false,
      or_false]
    -- Either this item fails, or it passes and the loop fails at a later one.
    constructor
    · rintro (ha | ⟨b, ha, before, c, after, rfl, hbefore, hc⟩)
      · exact ⟨[], a, as, rfl, nofun, ha⟩
      · exact ⟨a :: before, c, after, rfl, List.forall_mem_cons.mpr ⟨⟨b, ha⟩, hbefore⟩, hc⟩
    · rintro ⟨before, c, after, hl, hbefore, hc⟩
      cases before with
      | nil =>
        obtain ⟨rfl, rfl⟩ := List.cons.inj hl
        exact .inl hc
      | cons d before =>
        obtain ⟨rfl, rfl⟩ := List.cons.inj hl
        obtain ⟨⟨b, ha⟩, hbefore⟩ := List.forall_mem_cons.mp hbefore
        exact .inr ⟨b, ha, before, c, after, rfl, hbefore, hc⟩

end Failing

/-! ## Signals -/

theorem signalNamed_eq_error_iff {name : String} {e : Error} :
    signalNamed name = .error e ↔ (∀ s, signalNamed name ≠ .ok s) ∧ e = .invalidSignal name := by
  rw [signalNamed]
  split <;> simp [eq_comm]

/-! ## Patterns -/

variable [Pattern.Engine]

namespace Rule

/-- The pattern is not empty and, where it is to be a regular expression, it can be read as one. -/
def Accepts (pattern : String) (kind : RuleKind) : Prop :=
  pattern ≠ "" ∧ (kind = .regex → ∃ p, Pattern.Regex.read pattern.toList = .ok p)

/-- A rule of the kind that keeps the pattern as it was written, beside what it is read as. -/
structure Keeps (r : Rule) (pattern : String) (kind : RuleKind) : Prop where
  source : r.source = pattern
  kind : r.kind = kind
  read : ∀ source p, r = .regex source p → Pattern.Regex.read source.toList = .ok p

inductive Refuses (pattern : String) (kind : RuleKind) : PatternFault → Prop
  | empty (blank : pattern = "") : Refuses pattern kind .empty
  | unread {e : Pattern.SyntaxError} (nonempty : pattern ≠ "") (regex : kind = .regex)
      (unread : Pattern.Regex.read pattern.toList = .error e) : Refuses pattern kind (.refused e)

variable {category pattern : String} {kind : RuleKind} {r : Rule}

theorem keeps_substring_iff : r.Keeps pattern .substring ↔ r = .substring pattern := by
  constructor
  · intro h
    cases r with
    | substring text => exact congrArg _ h.source
    | regex source p => cases h.kind
  · rintro rfl
    exact ⟨rfl, rfl, nofun⟩

theorem keeps_regex_iff :
    r.Keeps pattern .regex ↔
      ∃ p, r = .regex pattern p ∧ Pattern.Regex.read pattern.toList = .ok p := by
  constructor
  · intro h
    cases r with
    | substring text => cases h.kind
    | regex source p =>
      obtain rfl : source = pattern := h.source
      exact ⟨p, rfl, h.read _ _ rfl⟩
  · rintro ⟨p, rfl, read⟩
    refine ⟨rfl, rfl, ?_⟩
    intro source q same
    cases same
    exact read

theorem compile_empty : compile category "" kind = .error (.invalidPattern category .empty) :=
  rfl

theorem compile_substring (nonempty : pattern ≠ "") :
    compile category pattern .substring = .ok (.substring pattern) := by
  have filled : ¬ pattern.isEmpty = true := by simpa using nonempty
  exact if_neg filled

theorem compile_regex (nonempty : pattern ≠ "") :
    compile category pattern .regex =
      match Pattern.Regex.read pattern.toList with
      | .ok p => .ok (.regex pattern p)
      | .error e => .error (.invalidPattern category (.refused e)) := by
  have filled : ¬ pattern.isEmpty = true := by simpa using nonempty
  exact if_neg filled

theorem compile_eq_ok_iff :
    compile category pattern kind = .ok r ↔ pattern ≠ "" ∧ r.Keeps pattern kind := by
  by_cases blank : pattern = ""
  · rw [blank, compile_empty]
    simp
  · rw [and_iff_right blank]
    cases kind with
    | substring =>
      rw [compile_substring blank, keeps_substring_iff, Except.ok.injEq]
      exact eq_comm
    | regex =>
      rw [compile_regex blank, keeps_regex_iff]
      cases read : Pattern.Regex.read pattern.toList with
      | error e => simp
      | ok p => simp [eq_comm]

theorem compile_eq_error_iff {e : Error} :
    compile category pattern kind = .error e ↔
      ∃ fault, Refuses pattern kind fault ∧ e = .invalidPattern category fault := by
  by_cases blank : pattern = ""
  · rw [blank, compile_empty]
    constructor
    · intro h
      cases h
      exact ⟨.empty, .empty rfl, rfl⟩
    · rintro ⟨fault, refused, rfl⟩
      cases refused with
      | empty => rfl
      | unread nonempty => exact absurd rfl nonempty
  · cases kind with
    | substring =>
      rw [compile_substring blank]
      constructor
      · nofun
      · rintro ⟨fault, refused, rfl⟩
        cases refused with
        | empty same => exact absurd same blank
        | unread nonempty regex => cases regex
    | regex =>
      rw [compile_regex blank]
      constructor
      · intro h
        split at h
        · cases h
        · next e' read =>
          cases h
          exact ⟨.refused e', .unread blank rfl read, rfl⟩
      · rintro ⟨fault, refused, rfl⟩
        cases refused with
        | empty same => exact absurd same blank
        | unread nonempty regex read => rw [read]

theorem exists_keeps_iff : (pattern ≠ "" ∧ ∃ r, Keeps r pattern kind) ↔ Accepts pattern kind := by
  refine and_congr_right fun _ => ?_
  cases kind with
  | substring => simp [keeps_substring_iff]
  | regex => simp [keeps_regex_iff]

theorem Refuses.not_accepts {fault : PatternFault} (h : Refuses pattern kind fault) :
    ¬ Accepts pattern kind := by
  rintro ⟨nonempty, read⟩
  cases h with
  | empty blank => exact nonempty blank
  | unread _ regex unread =>
    obtain ⟨p, hp⟩ := read regex
    rw [hp] at unread
    cases unread

end Rule

/-! ## Categories -/

namespace CategoryConfig

/-- A category of the name that was configured, with the rule that its pattern makes. -/
structure Becomes (c : CategoryConfig) (k : Category) : Prop where
  name : k.name = c.name
  rule : k.rule.Keeps c.pattern c.kind

variable {c : CategoryConfig}

theorem compile_eq_ok_iff {k : Category} :
    c.compile = .ok k ↔ Rule.Accepts c.pattern c.kind ∧ c.Becomes k := by
  simp only [compile, bind_eq_ok_iff, pure_eq_ok_iff, Rule.compile_eq_ok_iff]
  constructor
  · rintro ⟨r, ⟨nonempty, keeps⟩, rfl⟩
    exact ⟨Rule.exists_keeps_iff.mp ⟨nonempty, r, keeps⟩, rfl, keeps⟩
  · rintro ⟨accepted, becomes⟩
    refine ⟨k.rule, ⟨accepted.1, becomes.rule⟩, ?_⟩
    rw [← becomes.name]

theorem exists_compile_eq_ok_iff : (∃ k, c.compile = .ok k) ↔ Rule.Accepts c.pattern c.kind := by
  simp only [compile_eq_ok_iff, exists_and_left]
  refine and_iff_left_of_imp ?_
  intro accepted
  obtain ⟨-, r, keeps⟩ := Rule.exists_keeps_iff.mpr accepted
  exact ⟨⟨c.name, r⟩, rfl, keeps⟩

theorem compile_eq_error_iff {e : Error} :
    c.compile = .error e ↔
      ∃ fault, Rule.Refuses c.pattern c.kind fault ∧ e = .invalidPattern c.name fault := by
  simp only [compile, bind_eq_error_iff, pure_ne_error, and_false, exists_false, or_false,
    Rule.compile_eq_error_iff]

end CategoryConfig

/-! ## Settings -/

namespace Config

structure Valid (c : Config) : Prop where
  categories : ∀ k ∈ c.categories, Rule.Accepts k.pattern k.kind
  graceSignal : ∃ s, signalNamed c.graceSignal = .ok s
  killSignal : ∃ s, signalNamed c.killSignal = .ok s

/-- Settings that hold what was configured, one category for each in their order. -/
structure Becomes (c : Config) (s : Settings) : Prop where
  categories : List.Forall₂ CategoryConfig.Becomes c.categories s.categories
  graceSignal : signalNamed c.graceSignal = .ok s.policy.graceSignal
  graceWindow : s.policy.graceWindow = c.graceWindowMs
  killSignal : signalNamed c.killSignal = .ok s.policy.killSignal

/-- The fault of the first item that is not valid. -/
inductive FirstFault (c : Config) : Error → Prop
  | category {before after : List CategoryConfig} {k : CategoryConfig} {fault : PatternFault}
      (declared : c.categories = before ++ k :: after)
      (valid : ∀ b ∈ before, Rule.Accepts b.pattern b.kind)
      (bad : Rule.Refuses k.pattern k.kind fault) : FirstFault c (.invalidPattern k.name fault)
  | graceSignal (valid : ∀ k ∈ c.categories, Rule.Accepts k.pattern k.kind)
      (bad : ∀ s, signalNamed c.graceSignal ≠ .ok s) : FirstFault c (.invalidSignal c.graceSignal)
  | killSignal (valid : ∀ k ∈ c.categories, Rule.Accepts k.pattern k.kind)
      (grace : ∃ s, signalNamed c.graceSignal = .ok s)
      (bad : ∀ s, signalNamed c.killSignal ≠ .ok s) : FirstFault c (.invalidSignal c.killSignal)

variable {c : Config}

theorem settings_eq_ok_iff {s : Settings} : c.settings = .ok s ↔ c.Valid ∧ c.Becomes s := by
  simp only [settings, bind_eq_ok_iff, pure_eq_ok_iff, mapM_eq_ok_iff,
    CategoryConfig.compile_eq_ok_iff, List.forall₂_and_left]
  constructor
  · rintro ⟨ks, ⟨accepted, becomes⟩, g, grace, k, killed, rfl⟩
    exact ⟨⟨accepted, ⟨g, grace⟩, ⟨k, killed⟩⟩, ⟨becomes, grace, rfl, killed⟩⟩
  · rintro ⟨valid, becomes⟩
    refine ⟨s.categories, ⟨valid.categories, becomes.categories⟩, _, becomes.graceSignal, _,
      becomes.killSignal, ?_⟩
    rw [← becomes.graceWindow]

theorem settings_eq_error_iff {e : Error} : c.settings = .error e ↔ c.FirstFault e := by
  simp only [settings, bind_eq_error_iff, pure_ne_error, and_false, exists_false, or_false,
    exists_and_right, exists_mapM_eq_ok_iff, signalNamed_eq_error_iff, mapM_eq_error_iff,
    CategoryConfig.exists_compile_eq_ok_iff, CategoryConfig.compile_eq_error_iff]
  constructor
  · rintro (⟨before, k, ⟨after, declared⟩, valid, fault, bad, rfl⟩ |
      ⟨valid, ⟨bad, rfl⟩ | ⟨grace, bad, rfl⟩⟩)
    · exact .category declared valid bad
    · exact .graceSignal valid bad
    · exact .killSignal valid grace bad
  · intro h
    cases h with
    | category declared valid bad =>
      exact .inl ⟨_, _, ⟨_, declared⟩, valid, _, bad, rfl⟩
    | graceSignal valid bad => exact .inr ⟨valid, .inl ⟨bad, rfl⟩⟩
    | killSignal valid grace bad => exact .inr ⟨valid, .inr ⟨grace, bad, rfl⟩⟩

theorem FirstFault.not_valid {e : Error} (h : c.FirstFault e) : ¬ c.Valid := by
  intro valid
  cases h with
  | @category before after k fault declared _ bad =>
    have listed : k ∈ c.categories := by simp [declared]
    exact bad.not_accepts (valid.categories k listed)
  | graceSignal _ bad =>
    obtain ⟨s, hs⟩ := valid.graceSignal
    exact bad s hs
  | killSignal _ _ bad =>
    obtain ⟨s, hs⟩ := valid.killSignal
    exact bad s hs

end Config

/-- A configuration becomes settings exactly if all its items are valid. They hold what was
configured, and otherwise the first item that is not valid gives the error. -/
theorem settings_validated (c : Config) :
    ((∃ s, c.settings = .ok s) ↔ c.Valid) ∧
      (∀ s, c.settings = .ok s → c.Becomes s) ∧
      ∀ e, c.settings = .error e ↔ c.FirstFault e := by
  refine ⟨⟨?_, ?_⟩, ?_, fun e => Config.settings_eq_error_iff⟩
  · rintro ⟨s, hs⟩
    exact (Config.settings_eq_ok_iff.mp hs).1
  · intro valid
    cases made : c.settings with
    | ok s => exact ⟨s, rfl⟩
    | error e => exact absurd valid (Config.settings_eq_error_iff.mp made).not_valid
  · intro s hs
    exact (Config.settings_eq_ok_iff.mp hs).2

end Straggler
