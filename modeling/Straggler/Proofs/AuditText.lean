import Straggler.Proofs.StatusText

/-!
# Audits can be told from their status

The second line of an audit's status says whether the audit could be made, and if so, whether
anything is left; then there is one line for each process that is. The name of a category stands
between brackets, so it may be anything without a closing one.
-/

namespace Straggler

set_option autoImplicit false

/-! ## The lines of an audit -/

def Survivor.line (s : Survivor) : String :=
  "  [" ++ (s.category ++ ("] pid " ++ (toString s.record.pid ++ (": " ++ s.record.commandLine))))

/-- The second line says whether the audit could be made and whether anything is left. -/
def AuditReport.lines (r : AuditReport) : List String :=
  "cleanup completed" ::
    match r.error with
    | some reason => ["audit unavailable: " ++ reason]
    | none =>
      if r.survivors.isEmpty then ["no processes still matching known patterns"]
      else "processes still matching known patterns:" :: r.survivors.map (·.line)

theorem Survivor.toList_status (s : Survivor) : s.status.toList = unlines [s.line.toList] := by
  apply toList_statusLine
  simp [line]

theorem AuditReport.toList_status (r : AuditReport) :
    r.status.toList = unlines (r.lines.map String.toList) := by
  have alone (text : String) : (statusLine [text]).toList = unlines [text.toList] :=
    toList_statusLine (by simp)
  have first (text : String) (rest : List String) :
      unlines ((text :: rest).map String.toList) =
        (statusLine [text]).toList ++ unlines (rest.map String.toList) := by
    rw [alone, List.map_cons, unlines_cons]
  have survivors : unlines ((r.survivors.map (·.line)).map String.toList) =
      (String.join (r.survivors.map (·.status))).toList := by
    rw [List.map_map, unlines_map]
    simp [String.toList_join, List.flatMap_map, Survivor.toList_status]
  have unavailable (reason : String) : (statusLine ["audit unavailable: ", reason]).toList =
      unlines (["audit unavailable: " ++ reason].map String.toList) :=
    toList_statusLine (by simp)
  rw [status, lines, String.toList_append, first]
  cases r.error with
  | some reason => rw [unavailable]
  | none =>
    simp only
    split_ifs with empty
    · rw [alone]
      rfl
    · rw [String.toList_append, first, survivors]

/-! ## What the lines say -/

theorem Survivor.line_unique {s s' : Survivor} (name : ']' ∉ s.category.toList)
    (name' : ']' ∉ s'.category.toList) (same : s.line.toList = s'.line.toList) : s = s' := by
  have shown : s.category.toList ++ (']' :: (" pid ".toList ++
        ((toString s.record.pid).toList ++ (':' :: ' ' :: s.record.commandLine.toList)))) =
      s'.category.toList ++ (']' :: (" pid ".toList ++
        ((toString s'.record.pid).toList ++ (':' :: ' ' :: s'.record.commandLine.toList)))) := by
    simpa [line, -Nat.toString_eq_repr] using same
  obtain ⟨category, rest⟩ := marked_unique name name' shown
  obtain ⟨pid, commandLine⟩ := numeral_unique (stopsAt_cons rfl _) (stopsAt_cons rfl _)
    (List.append_cancel_left rest)
  have alike : s.record.commandLine = s'.record.commandLine := by
    simpa [String.toList_inj] using commandLine
  obtain ⟨_, _, _⟩ := s
  obtain ⟨_, _, _⟩ := s'
  simp only [Survivor.mk.injEq, Record.mk.injEq]
  exact ⟨String.toList_inj.mp category, pid, alike⟩

theorem Survivor.lines_unique {ss ss' : List Survivor} (names : ∀ s ∈ ss, ']' ∉ s.category.toList)
    (names' : ∀ s ∈ ss', ']' ∉ s.category.toList) (same : ss.map (·.line) = ss'.map (·.line)) :
    ss = ss' := by
  induction ss generalizing ss' with
  | nil => exact (List.map_eq_nil_iff.mp same.symm).symm
  | cons s ss ih =>
    cases ss' with
    | nil => cases same
    | cons s' ss' =>
      obtain ⟨line, others⟩ := List.cons.inj same
      obtain ⟨name, names⟩ := List.forall_mem_cons.mp names
      obtain ⟨name', names'⟩ := List.forall_mem_cons.mp names'
      rw [line_unique name name' (congrArg String.toList line), ih names names' others]

/-- No string that the status shows holds the end of a line, and no category's name closes the
bracket around it. -/
structure AuditReport.Unbroken (r : AuditReport) : Prop where
  error : ∀ reason ∈ r.error, OneLine reason
  survivors : ∀ s ∈ r.survivors, OneLine s.category ∧ OneLine s.record.commandLine
  names : ∀ s ∈ r.survivors, ']' ∉ s.category.toList

theorem Survivor.oneLine_line {s : Survivor} (category : OneLine s.category)
    (commandLine : OneLine s.record.commandLine) : OneLine s.line := by
  have pid := Remark.oneLine_numeral s.record.pid
  simp only [OneLine, line, String.toList_append] at category commandLine pid ⊢
  simp [-Nat.toString_eq_repr, category, commandLine, pid]

theorem AuditReport.Unbroken.lines {r : AuditReport} (h : r.Unbroken) :
    ∀ l ∈ r.lines, OneLine l := by
  intro l hl
  rw [AuditReport.lines, List.mem_cons] at hl
  rcases hl with rfl | hl
  · simp [OneLine]
  · cases error : r.error with
    | some reason =>
      simp only [error, List.mem_singleton] at hl
      have said : OneLine reason := h.error reason error
      subst hl
      simp only [OneLine, String.toList_append] at said ⊢
      simp [said]
    | none =>
      simp only [error] at hl
      split_ifs at hl
      · cases List.mem_singleton.mp hl
        simp [OneLine]
      · rcases List.mem_cons.mp hl with rfl | hl
        · simp [OneLine]
        · obtain ⟨s, hs, rfl⟩ := List.mem_map.mp hl
          obtain ⟨category, commandLine⟩ := h.survivors s hs
          exact Survivor.oneLine_line category commandLine

theorem AuditReport.lines_unique {r r' : AuditReport}
    (names : ∀ s ∈ r.survivors, ']' ∉ s.category.toList)
    (names' : ∀ s ∈ r'.survivors, ']' ∉ s.category.toList) (same : r.lines = r'.lines) :
    r.error = r'.error ∧ (r.error = none → r.survivors = r'.survivors) := by
  have rest := (List.cons.inj same).2
  cases error : r.error with
  | some reason =>
    cases error' : r'.error with
    | some reason' =>
      simp only [error, error'] at rest
      simpa [← String.toList_inj] using rest
    | none =>
      simp only [error, error'] at rest
      split_ifs at rest <;> simp [← String.toList_inj] at rest
  | none =>
    cases error' : r'.error with
    | some reason' =>
      simp only [error, error'] at rest
      split_ifs at rest <;> simp [← String.toList_inj] at rest
    | none =>
      simp only [error, error'] at rest
      refine ⟨rfl, fun _ => ?_⟩
      split_ifs at rest with empty empty' empty'
      · rw [List.isEmpty_iff.mp empty, List.isEmpty_iff.mp empty']
      · simp [← String.toList_inj] at rest
      · simp [← String.toList_inj] at rest
      · exact Survivor.lines_unique names names' (List.cons.inj rest).2

theorem AuditReport.status_unique {r r' : AuditReport} (h : r.Unbroken) (h' : r'.Unbroken)
    (same : r.status = r'.status) :
    r.error = r'.error ∧ (r.error = none → r.survivors = r'.survivors) := by
  have whole {r : AuditReport} (h : r.Unbroken) : ∀ l ∈ r.lines.map String.toList, '\n' ∉ l := by
    intro l hl
    obtain ⟨line, hline, rfl⟩ := List.mem_map.mp hl
    exact h.lines line hline
  have text : unlines (r.lines.map String.toList) = unlines (r'.lines.map String.toList) := by
    rw [← toList_status, same, toList_status]
  have injective : Function.Injective String.toList := fun _ _ => String.toList_inj.mp
  have lines : r.lines = r'.lines :=
    injective.list_map (unlines_unique (whole h) (whole h') text)
  exact lines_unique h.names h'.names lines

/-- Only a clean audit says that nothing is left, whatever the strings of the others hold. -/
theorem AuditReport.status_clean_iff (r : AuditReport) :
    r.status = "cleanup completed\nno processes still matching known patterns\n" ↔
      r.isClean = true := by
  rw [status, isClean]
  cases r.error with
  | some reason => simp [← String.toList_inj, statusLine]
  | none =>
    cases r.survivors with
    | nil => exact iff_of_true rfl rfl
    | cons s ss => simp [← String.toList_inj, statusLine]

/-! ## Status texts -/

/-- A status determines all that it shows: that of a category what was found, and if anything was,
how many were spared and how the others ended; that of an audit its error or its survivors. -/
theorem reports_told_from_status :
    (∀ r r' : CategoryReport, r.category = r'.category → r.Unbroken → r'.Unbroken →
      r.status = r'.status →
      r.discovered = r'.discovered ∧
        (r.discovered ≠ [] → r.protectedCount = r'.protectedCount ∧ r.ends = r'.ends)) ∧
    (∀ r r' : AuditReport, r.Unbroken → r'.Unbroken → r.status = r'.status →
      r.error = r'.error ∧ (r.error = none → r.survivors = r'.survivors)) ∧
    ∀ r : AuditReport,
      r.status = "cleanup completed\nno processes still matching known patterns\n" ↔
        r.isClean = true := by
  refine ⟨?_, ?_, AuditReport.status_clean_iff⟩
  · intro r r' tag h h' same
    exact CategoryReport.status_unique tag h h' same
  · intro r r' h h' same
    exact AuditReport.status_unique h h' same

def CategoryReport.imitated (pattern : String) : CategoryReport where
  category := "worker"
  pattern := pattern
  discovered := [⟨7, "[worker] pid 8 already gone"⟩]
  protectedCount := 2
  termination := some
    { graceSignal := "SIGTERM"
      killSignal := "SIGKILL"
      pids := [⟨7, "[worker] pid 8 already gone", true, false, .signalFailed "EPERM (gone)"⟩] }

theorem CategoryReport.imitated_unbroken (pattern : String) : (imitated pattern).Unbroken := by
  constructor <;> simp [imitated, OneLine]

def AuditReport.imitated : AuditReport where
  survivors := [⟨"a [b", 7, "] pid 8: audit unavailable: "⟩]

theorem AuditReport.imitated_unbroken : imitated.Unbroken := by
  constructor <;> simp [imitated, OneLine]

theorem reports_told_from_status_imitated :
    (CategoryReport.imitated "a").category = (CategoryReport.imitated "b").category ∧
    (CategoryReport.imitated "a").status = (CategoryReport.imitated "b").status ∧
    (CategoryReport.imitated "a").ends = (CategoryReport.imitated "b").ends ∧
    AuditReport.imitated.error = none ∧
    AuditReport.imitated.survivors = AuditReport.imitated.survivors ∧
    (AuditReport.status {} = "cleanup completed\nno processes still matching known patterns\n" ↔
      AuditReport.isClean {} = true) :=
  have categories := reports_told_from_status.1 (.imitated "a") (.imitated "b") rfl
    (CategoryReport.imitated_unbroken "a") (CategoryReport.imitated_unbroken "b") rfl
  have audits := reports_told_from_status.2.1 .imitated .imitated AuditReport.imitated_unbroken
    AuditReport.imitated_unbroken rfl
  ⟨rfl, rfl, (categories.2 (List.cons_ne_nil _ _)).2, rfl, audits.2 rfl,
    reports_told_from_status.2.2 {}⟩

end Straggler
