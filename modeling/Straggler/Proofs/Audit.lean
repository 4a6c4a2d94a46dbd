import Straggler.Proofs.Selection

/-!
# Audits

An audit reads the table once for all categories, a dry cascade once for each of them. Where the
table always shows the same, the two select the same: the survivors are whom the categories
discover, in the order of the categories, and each is listed once for every category it matches. So
an audit that is clean leaves nothing for a cascade to do.
-/

namespace Straggler

set_option autoImplicit false

variable {σ : Type}

/-- The table always shows the same processes. -/
def Steady (m : Machine σ) (snapshot : Snapshot) : Prop :=
  ∀ s, (m.snapshot s).1 = .ok snapshot

def Machine.showing (m : Machine σ) (snapshot : Snapshot) : Machine σ :=
  { m with snapshot := fun s => (.ok snapshot, s) }

theorem Machine.showing_steady (m : Machine σ) (snapshot : Snapshot) :
    Steady (m.showing snapshot) snapshot :=
  fun _ => rfl

theorem Steady.recites {m : Machine σ} {snapshot : Snapshot} (h : Steady m snapshot) :
    Recites m fun read _ => ∀ answer ∈ read, answer = .ok snapshot where
  answer := by
    intro read s hread answer first
    rw [h s, hread answer (List.mem_of_mem_head? first)]
  snapshot := fun _ _ hread answer later => hread answer (List.mem_of_mem_tail later)
  send := fun _ _ _ _ hread => hread
  probe := fun _ _ _ hread => hread
  sleep := fun _ _ _ hread => hread

/-! ## A cascade over a steady table -/

theorem heard_replicate (snapshot : Snapshot) (n : Nat) :
    heard (List.replicate n (.ok snapshot)) = List.replicate n (.ok snapshot) := by
  induction n with
  | zero => rfl
  | succ n ih => rw [List.replicate_succ, heard, ih]

theorem foretold_replicate (p : Protected) (cs : List Category) (snapshot : Snapshot) :
    foretold p cs (List.replicate cs.length (.ok snapshot)) =
      .ok (cs.map fun c => c.report p snapshot none) := by
  induction cs with
  | nil => rfl
  | cons c cs ih =>
    rw [List.length_cons, List.replicate_succ, foretold_ok, ih]
    rfl

theorem Inert.calls_eq {calls : List Call} (h : Inert calls) :
    calls = (readings calls).map .snapshot := by
  induction calls with
  | nil => rfl
  | cons call calls ih =>
    obtain ⟨⟨answer, rfl⟩, hcalls⟩ := List.forall_mem_cons.mp h
    have rest := ih hcalls
    have read : readings (.snapshot answer :: calls) = answer :: readings calls := rfl
    rw [read, List.map_cons, ← rest]

/-- In a dry run the selection is all there is to a report. -/
theorem CascadeReport.selection_eq_self {cascade : CascadeReport}
    (h : ∀ r ∈ cascade.categories, r.termination = none) : cascade.selection = cascade := by
  have same : cascade.categories.map (·.selection) = cascade.categories.map id := by
    refine List.map_congr_left fun r hr => ?_
    rw [CategoryReport.selection, ← h r hr]
    rfl
  rw [selection, same, List.map_id]

namespace Supervisor

theorem dry_cascade_steady {m : Machine σ} {snapshot : Snapshot} (steady : Steady m snapshot)
    (sv : Supervisor) (dry : sv.dryRun = true) (p : Protected) (s : σ) :
    ∃ t, watched (sv.cascade m.recorded p).run s =
      ((.ok { categories := sv.settings.categories.map fun c => c.report p snapshot none },
        List.replicate sv.settings.categories.length (.snapshot (.ok snapshot))), t) := by
  have told : ∀ answer ∈ List.replicate sv.settings.categories.length (.ok snapshot),
      answer = (.ok snapshot : Except Error Snapshot) := fun _ => List.eq_of_mem_replicate
  have enough : Suffices (List.replicate sv.settings.categories.length (.ok snapshot))
      sv.settings.categories.length := .inl (Nat.le_of_eq List.length_replicate.symm)
  obtain ⟨answer, calls, t, hwatched, _, hcascaded, hread⟩ :=
    cascade_heard (s := s) steady.recites sv p told enough
  rw [List.take_replicate, Nat.min_self, heard_replicate] at hread
  have hcalls := (hcascaded.inert dry).calls_eq
  rw [hread, List.map_replicate] at hcalls
  have hselects := hcascaded.selects
  rw [hread, foretold_replicate] at hselects
  cases answer with
  | error e => cases hselects
  | ok cascade =>
    have undone := fun r hr => (hcascaded.termination r hr).mpr dry
    have whole : cascade.selection = _ := Except.ok.inj hselects
    rw [CascadeReport.selection_eq_self undone] at whole
    rw [whole, hcalls] at hwatched
    exact ⟨t, hwatched⟩

theorem audit_steady {m : Machine σ} {snapshot : Snapshot} (steady : Steady m snapshot)
    (sv : Supervisor) (p : Protected) (s : σ) :
    ∃ t, watched (sv.audit m.recorded p).run s =
      ((.ok { survivors := sv.settings.categories.flatMap (survivors p snapshot) },
        [.snapshot (.ok snapshot)]), t) := by
  have read : (ExceptT.mk m.recorded.snapshot : Attempt _ Snapshot).run (s, []) =
      (.ok snapshot, (m.snapshot s).2, [.snapshot (.ok snapshot)]) := by
    change ((m.snapshot s).1, (m.snapshot s).2, [Call.snapshot (m.snapshot s).1]) = _
    rw [steady s]
  have made : (sv.audit m.recorded p).run (s, []) =
      (.ok { survivors := sv.settings.categories.flatMap (survivors p snapshot) },
        (m.snapshot s).2, [.snapshot (.ok snapshot)]) := by
    rw [audit, Attempt.run_bind_of_ok read]
    rfl
  exact ⟨(m.snapshot s).2, watched_of_eq made⟩

end Supervisor

/-! ## Survivors -/

section Survivors

variable {p : Protected} {snapshot : Snapshot}

theorem Supervisor.survivors_eq (c : Category) : survivors p snapshot c =
    (c.report p snapshot none).discovered.map fun r => { category := c.name, record := r } :=
  rfl

/-- A process is a survivor of a category at most once. -/
theorem Supervisor.countP_survivors {record : Record} (listed : record ∈ snapshot.records)
    (spared : p.contains record.pid = false) (c : Category) :
    (survivors p snapshot c).countP (·.record == record) =
      if c.rule.isMatch record.commandLine then 1 else 0 := by
  have nodup : (c.plan p snapshot).records.Nodup :=
    (Record.nodup_pids (c.plan_ascending p snapshot)).of_map
  have once : (c.plan p snapshot).records.count record =
      if record ∈ (c.plan p snapshot).records then 1 else 0 := nodup.count
  have mem : record ∈ (c.plan p snapshot).records ↔ c.rule.isMatch record.commandLine = true := by
    rw [Category.mem_plan]
    exact ⟨fun h => h.2.1, fun matched => ⟨listed, matched, spared⟩⟩
  rw [survivors_eq, List.countP_map]
  simp only [mem] at once
  exact once

/-- A process survives once for each category that matches it. -/
theorem Supervisor.countP_flatMap_survivors {record : Record} (listed : record ∈ snapshot.records)
    (spared : p.contains record.pid = false) (cs : List Category) :
    (cs.flatMap (survivors p snapshot)).countP (·.record == record) =
      cs.countP fun c => c.rule.isMatch record.commandLine := by
  induction cs with
  | nil => rfl
  | cons c cs ih =>
    rw [List.flatMap_cons, List.countP_append, ih, countP_survivors listed spared, List.countP_cons,
      Nat.add_comm]

theorem Supervisor.flatMap_survivors_eq_nil_iff (cs : List Category) :
    cs.flatMap (survivors p snapshot) = [] ↔ ∀ record ∈ snapshot.records,
      p.contains record.pid = false → ∀ c ∈ cs, c.rule.isMatch record.commandLine = false := by
  rw [List.flatMap_eq_nil_iff]
  constructor
  · intro none record listed spared c hc
    have unplanned : (c.plan p snapshot).records = [] := List.map_eq_nil_iff.mp (none c hc)
    refine Bool.eq_false_iff.mpr fun matched => ?_
    have planned := Category.mem_plan.mpr ⟨listed, matched, spared⟩
    rw [unplanned] at planned
    cases planned
  · intro unmatched c hc
    refine List.map_eq_nil_iff.mpr (List.eq_nil_iff_forall_not_mem.mpr fun record planned => ?_)
    obtain ⟨listed, matched, spared⟩ := Category.mem_plan.mp planned
    rw [unmatched record listed spared c hc] at matched
    cases matched

end Survivors

/-! ## The two looks at a table -/

/-- What an audit says in terms of a dry cascade: the survivors are whom the categories discovered,
tagged with the category. So a process is listed as often as there are categories that match it, and
the audit is clean exactly if nobody was discovered, which is to say that no unprotected process
matches a category. -/
structure AuditReport.Mirrors (audit : AuditReport) (cascade : CascadeReport)
    (cs : List Category) (p : Protected) (snapshot : Snapshot) : Prop where
  error : audit.error = none
  categories : cascade.categories.map (·.category) = cs.map (·.name)
  survivors : audit.survivors = cascade.categories.flatMap fun r =>
    r.discovered.map fun record => { category := r.category, record }
  times : ∀ record ∈ snapshot.records, p.contains record.pid = false →
    audit.survivors.countP (·.record == record) =
      cs.countP fun c => c.rule.isMatch record.commandLine
  clean : audit.isClean = true ↔ ∀ r ∈ cascade.categories, r.discovered = []
  unmatched : audit.isClean = true ↔ ∀ record ∈ snapshot.records,
    p.contains record.pid = false → ∀ c ∈ cs, c.rule.isMatch record.commandLine = false

theorem AuditReport.isClean_iff {survivors : List Survivor} :
    AuditReport.isClean { survivors } = true ↔ survivors = [] := by
  rw [isClean, Bool.and_eq_true, List.isEmpty_iff]
  exact and_iff_right rfl

theorem Supervisor.survivors_mirror (cs : List Category) (p : Protected) (snapshot : Snapshot) :
    AuditReport.Mirrors { survivors := cs.flatMap (survivors p snapshot) }
      { categories := cs.map fun c => c.report p snapshot none } cs p snapshot where
  error := rfl
  categories := by
    rw [List.map_map]
    rfl
  survivors := by
    rw [List.flatMap_map]
    rfl
  times := fun _ listed spared => countP_flatMap_survivors listed spared cs
  clean := by
    rw [AuditReport.isClean_iff, List.flatMap_eq_nil_iff]
    simp only [List.forall_mem_map, survivors_eq, List.map_eq_nil_iff]
  unmatched := by
    rw [AuditReport.isClean_iff]
    exact flatMap_survivors_eq_nil_iff cs

namespace Supervisor

/-- Over a steady table an audit and a dry cascade both succeed and select the same, the one by a
single reading and the other by one for each category. Neither makes any other call. -/
theorem audit_mirrors_dry_cascade {m : Machine σ} {snapshot : Snapshot} (steady : Steady m snapshot)
    (sv : Supervisor) (p : Protected) (s t : σ) :
    ∃ cascade audit s' t',
      watched (Supervisor.cascade { sv with dryRun := true } m.recorded p).run s =
        ((.ok cascade,
          List.replicate sv.settings.categories.length (.snapshot (.ok snapshot))), s') ∧
      (Supervisor.cascade { sv with dryRun := true } m p).run s = (.ok cascade, s') ∧
      watched (sv.audit m.recorded p).run t = ((.ok audit, [.snapshot (.ok snapshot)]), t') ∧
      (sv.audit m p).run t = (.ok audit, t') ∧
      audit.Mirrors cascade sv.settings.categories p snapshot := by
  obtain ⟨s', hcascade⟩ := dry_cascade_steady steady { sv with dryRun := true } rfl p s
  obtain ⟨t', haudit⟩ := audit_steady steady sv p t
  exact ⟨_, _, s', t', hcascade, (cascade_makes _ m p).eq_of_watched hcascade, haudit,
    (audit_makes sv m p).eq_of_watched haudit, survivors_mirror sv.settings.categories p snapshot⟩

/-- Categories that overlap, and processes that match the one, the other or both of them, one
protected. -/
theorem audit_mirrors_dry_cascade_contested :
    Steady ((Snapshot.machine .kill).showing World.contested) World.contested ∧
    ∃ cascade audit s' t',
      watched (Supervisor.cascade { settings := World.overlapping, dryRun := true }
        ((Snapshot.machine .kill).showing World.contested).recorded { pids := [44] }).run
        World.contested =
        ((.ok cascade, List.replicate 2 (.snapshot (.ok World.contested))), s') ∧
      (Supervisor.cascade { settings := World.overlapping, dryRun := true }
        ((Snapshot.machine .kill).showing World.contested) { pids := [44] }).run
        World.contested = (.ok cascade, s') ∧
      watched (Supervisor.audit { settings := World.overlapping }
        ((Snapshot.machine .kill).showing World.contested).recorded { pids := [44] }).run .empty =
        ((.ok audit, [.snapshot (.ok World.contested)]), t') ∧
      (Supervisor.audit { settings := World.overlapping }
        ((Snapshot.machine .kill).showing World.contested) { pids := [44] }).run .empty =
        (.ok audit, t') ∧
      audit.Mirrors cascade World.overlapping.categories { pids := [44] } World.contested := by
  have steady := (Snapshot.machine .kill).showing_steady World.contested
  exact ⟨steady, audit_mirrors_dry_cascade steady { settings := World.overlapping } { pids := [44] }
    World.contested .empty⟩

end Supervisor

end Straggler
