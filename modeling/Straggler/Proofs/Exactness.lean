import Straggler.Proofs.Endings
import Straggler.Proofs.Interruption

/-!
# What a cascade reports

The report of a cascade says neither more nor less than what was found. Each category has its own
report, made from its own reading of the table, and what the report lists is what that reading
showed to match, less the protected, who are counted. In a live cascade the processes that were
escalated are those listed, in the same order; in a dry one there are none.
-/

namespace Straggler

set_option autoImplicit false

variable {σ : Type}

def PidReport.record (e : PidReport) : Record where
  pid := e.pid
  commandLine := e.commandLine

/-- What the report of a category says of the reading it was made from. Kept and protected records
together are all that match, so the difference that counts the protected is never cut off at
zero. -/
structure CategoryReport.Exact (sv : Supervisor) (p : Protected) (c : Category)
    (snapshot : Snapshot) (r : CategoryReport) : Prop where
  category : r.category = c.name
  pattern : r.pattern = c.rule.source
  discovered : ∀ record, record ∈ r.discovered ↔ record ∈ snapshot.records ∧
    c.rule.isMatch record.commandLine = true ∧ p.contains record.pid = false
  ascending : r.discovered.Pairwise (·.pid < ·.pid)
  protectedCount : r.protectedCount = snapshot.records.toList.countP fun record =>
    c.rule.isMatch record.commandLine && p.contains record.pid
  matched : r.discovered.length + r.protectedCount =
    snapshot.records.toList.countP fun record => c.rule.isMatch record.commandLine
  dry : r.termination = none ↔ sv.dryRun = true
  ended : ∀ t, r.termination = some t → t.pids.map (·.record) = r.discovered

/-! ## Counting what is left out -/

namespace Plan

/-- What is found is either kept or left out. -/
theorem build_length_add_skipped (category : String) (found : List Record) (p : Protected) :
    (build category found p).records.length + (build category found p).skipped = found.length := by
  have kept : (exclude found p).length ≤ found.length := List.length_filter_le _ found
  exact Nat.add_sub_of_le kept

theorem build_skipped (category : String) (found : List Record) (p : Protected) :
    (build category found p).skipped = found.countP fun r => p.contains r.pid := by
  have all := build_length_add_skipped category found p
  have kept : (build category found p).records.length =
      found.countP fun r => !p.contains r.pid := List.countP_eq_length_filter.symm
  have split := List.length_eq_countP_add_countP (fun r : Record => p.contains r.pid) (l := found)
  simp only [Bool.not_eq_true, Bool.decide_eq_false] at split
  omega

end Plan

namespace Category

theorem report_exact {sv : Supervisor} (c : Category) (p : Protected) (snapshot : Snapshot)
    {termination : Option TerminationReport} (dry : termination = none ↔ sv.dryRun = true)
    (ended : ∀ t, termination = some t → t.pids.map (·.record) = (c.plan p snapshot).records) :
    (c.report p snapshot termination).Exact sv p c snapshot where
  category := rfl
  pattern := rfl
  discovered := fun _ => mem_plan
  ascending := c.plan_ascending p snapshot
  protectedCount := by
    have skipped : (c.plan p snapshot).skipped =
        (c.rule.discover snapshot).countP fun r => p.contains r.pid := Plan.build_skipped _ _ p
    rw [Rule.discover, List.countP_filter] at skipped
    refine skipped.trans (List.countP_congr fun r _ => ?_)
    rw [Bool.and_comm]
  matched := by
    have all := Plan.build_length_add_skipped c.name (c.rule.discover snapshot) p
    rw [List.countP_eq_length_filter]
    exact all
  dry := dry
  ended := ended

end Category

/-! ## A whole cascade -/

section Cascade

variable {sv : Supervisor} {p : Protected} {calls : List Call}

theorem Swept.exact {c : Category} {r : CategoryReport} (swept : Swept sv p c (.ok r) calls) :
    ∃ snapshot, readings calls = [.ok snapshot] ∧ r.Exact sv p c snapshot := by
  cases swept with
  | dry snapshot dry =>
    exact ⟨snapshot, rfl, c.report_exact p snapshot ⟨fun _ => dry, fun _ => rfl⟩ nofun⟩
  | live snapshot turns live hrecords =>
    refine ⟨snapshot, readings_live snapshot _ turns, c.report_exact p snapshot ?_ ?_⟩
    · simp [live]
    · rintro _ ⟨⟩
      rw [← hrecords, TerminationReport.ofTurns, List.map_map]
      rfl

theorem InTurn.exact {cs : List Category} {reports : List CategoryReport}
    (h : InTurn (fun c r part => Swept sv p c (.ok r) part) cs reports calls) :
    ∃ read : List Snapshot, read.length = cs.length ∧ readings calls = read.map .ok ∧
      List.Forall₂ (fun (seen : Category × Snapshot) r => r.Exact sv p seen.1 seen.2)
        (cs.zip read) reports := by
  induction h with
  | nil => exact ⟨[], rfl, rfl, .nil⟩
  | cons swept _ ih =>
    obtain ⟨snapshot, hfirst, hexact⟩ := swept.exact
    obtain ⟨read, hlength, hrest, hreports⟩ := ih
    refine ⟨snapshot :: read, congrArg (· + 1) hlength, ?_, .cons hexact hreports⟩
    rw [readings_append, hfirst, hrest]
    rfl

theorem Cascaded.inTurn {cascade : CascadeReport} (h : Cascaded sv p (.ok cascade) calls) :
    InTurn (fun c r part => Swept sv p c (.ok r) part) sv.settings.categories cascade.categories
      calls := by
  obtain ⟨reports, hcascade, h⟩ := h
  cases reports with
  | error e => cases hcascade
  | ok reports =>
    cases hcascade
    exact h.inTurn

def CategoryReport.targeted (r : CategoryReport) : List Pid :=
  r.termination.elim [] fun t => t.pids.map (·.pid)

theorem CascadeReport.targetedPids_eq_flatMap (r : CascadeReport) :
    r.targetedPids = r.categories.flatMap (·.targeted) := by
  unfold targetedPids terminations
  induction r.categories with
  | nil => rfl
  | cons c cs ih =>
    rw [List.flatMap_cons, ← ih, CategoryReport.targeted, List.filterMap_cons]
    cases c.termination <;> rfl

theorem CategoryReport.Exact.targeted_eq {c : Category} {snapshot : Snapshot} {r : CategoryReport}
    (exact : r.Exact sv p c snapshot) :
    r.targeted = if sv.dryRun then [] else r.discovered.map (·.pid) := by
  cases hr : r.termination with
  | none => rw [if_pos (exact.dry.mp hr), CategoryReport.targeted, hr, Option.elim_none]
  | some t =>
    have live : ¬ sv.dryRun = true := fun dry => by simp [exact.dry.mpr dry] at hr
    rw [if_neg live, ← exact.ended t hr, CategoryReport.targeted, hr, Option.elim_some,
      List.map_map]
    rfl

theorem Cascaded.targeted_eq {cascade : CascadeReport} (h : Cascaded sv p (.ok cascade) calls) :
    ∀ r ∈ cascade.categories,
      r.targeted = if sv.dryRun then [] else r.discovered.map (·.pid) := by
  intro r hr
  obtain ⟨read, _, _, hexact⟩ := h.inTurn.exact
  obtain ⟨_, _, exact⟩ := hexact.exists_of_mem_right hr
  exact exact.targeted_eq

theorem Cascaded.targetedPids_eq {cascade : CascadeReport} (h : Cascaded sv p (.ok cascade) calls) :
    cascade.targetedPids =
      if sv.dryRun then [] else cascade.categories.flatMap fun r => r.discovered.map (·.pid) := by
  rw [CascadeReport.targetedPids_eq_flatMap, List.flatMap_congr h.targeted_eq]
  cases sv.dryRun with
  | true => exact List.flatMap_eq_nil_iff.mpr fun _ _ => rfl
  | false => rfl

/-- A cascade that succeeds has one report for each category, in their order, and each report is
exact for the reading of the table that the category was given. -/
theorem Supervisor.cascade_reports_exactly (sv : Supervisor) (m : Machine σ)
    (p : Protected) (s : σ) :
    ∃ answer calls t, watched (sv.cascade m.recorded p).run s = ((answer, calls), t) ∧
      (sv.cascade m p).run s = (answer, t) ∧
      ∀ cascade, answer = .ok cascade →
        (∃ read : List Snapshot, read.length = sv.settings.categories.length ∧
          readings calls = read.map .ok ∧
          List.Forall₂ (fun (seen : Category × Snapshot) r => r.Exact sv p seen.1 seen.2)
            (sv.settings.categories.zip read) cascade.categories) ∧
        cascade.targetedPids = if sv.dryRun then []
          else cascade.categories.flatMap fun r => r.discovered.map (·.pid) := by
  obtain ⟨calls, hwatched, hcascaded⟩ := (sv.cascade_makes m p).watched_eq s
  refine ⟨_, calls, _, hwatched, rfl, ?_⟩
  intro cascade hanswer
  rw [hanswer] at hcascaded
  exact ⟨hcascaded.inTurn.exact, hcascaded.targetedPids_eq⟩

end Cascade

end Straggler
