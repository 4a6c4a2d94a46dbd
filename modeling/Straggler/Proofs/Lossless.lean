import Straggler.Proofs.Rendering
import Straggler.Report.Json

/-!
# Reports can be told from their JSON

Every field of a report has a key of its own, also where the fields of one value stand among those
of another, so the value of a report determines the report; and its text determines the value.
-/

namespace Straggler

set_option autoImplicit false

/-! ## Keys -/

/-- No object in the value has two fields with one key. -/
inductive Json.DistinctKeys : Json → Prop
  | null : DistinctKeys .null
  | bool (b : Bool) : DistinctKeys (.bool b)
  | number (n : Nat) : DistinctKeys (.number n)
  | string (s : String) : DistinctKeys (.string s)
  | array {items : List Json} (each : ∀ v ∈ items, DistinctKeys v) : DistinctKeys (.array items)
  | object {fields : List (String × Json)} (distinct : (fields.map (·.1)).Nodup)
      (each : ∀ f ∈ fields, DistinctKeys f.2) : DistinctKeys (.object fields)

theorem Json.DistinctKeys.arrayOf {α : Type} {toJson : α → Json} {as : List α}
    (each : ∀ a ∈ as, (toJson a).DistinctKeys) : (Json.array (as.map toJson)).DistinctKeys := by
  apply Json.DistinctKeys.array
  intro v hv
  obtain ⟨a, ha, rfl⟩ := List.mem_map.mp hv
  exact each a ha

theorem Record.distinctKeys (r : Record) : r.toJson.DistinctKeys := by
  refine .object ?_ ?_
  · simp [fields]
  · simp only [fields, List.forall_mem_cons]
    exact ⟨.number r.pid, .string r.commandLine, nofun⟩

theorem PidReport.distinctKeys (r : PidReport) : r.toJson.DistinctKeys := by
  refine .object ?_ ?_
  · cases r.outcome <;> simp [Outcome.fields]
  · have own : ∀ f ∈ [("pid", Json.number r.pid), ("command_line", .string r.commandLine),
        ("graceful_sent", .bool r.gracefulSent), ("force_sent", .bool r.forceSent)],
        f.2.DistinctKeys := by
      simp only [List.forall_mem_cons]
      exact ⟨.number _, .string _, .bool _, .bool _, nofun⟩
    have flattened : ∀ f ∈ r.outcome.fields, f.2.DistinctKeys := by
      cases r.outcome <;> simp [Outcome.fields, Json.DistinctKeys.string]
    intro f hf
    exact (List.mem_append.mp hf).elim (own f) (flattened f)

theorem TerminationReport.distinctKeys (r : TerminationReport) : r.toJson.DistinctKeys := by
  refine .object ?_ ?_
  · simp
  · simp only [List.forall_mem_cons]
    exact ⟨.string _, .string _, .arrayOf fun p _ => p.distinctKeys, nofun⟩

theorem CategoryReport.distinctKeys (r : CategoryReport) : r.toJson.DistinctKeys := by
  have ended : (r.termination.elim Json.null (·.toJson)).DistinctKeys := by
    cases r.termination with
    | none => exact .null
    | some t => exact t.distinctKeys
  refine .object ?_ ?_
  · simp
  · simp only [List.forall_mem_cons]
    exact ⟨.string _, .string _, .arrayOf fun d _ => d.distinctKeys, .number _, ended, nofun⟩

theorem CascadeReport.distinctKeys (r : CascadeReport) : r.toJson.DistinctKeys := by
  refine .object ?_ ?_
  · simp
  · simp only [List.forall_mem_cons]
    exact ⟨.arrayOf fun c _ => c.distinctKeys, nofun⟩

theorem Survivor.distinctKeys (s : Survivor) : s.toJson.DistinctKeys := by
  refine .object ?_ ?_
  · simp [Record.fields]
  · simp only [Record.fields, List.forall_mem_cons]
    exact ⟨.string _, .number _, .string _, nofun⟩

theorem AuditReport.distinctKeys (r : AuditReport) : r.toJson.DistinctKeys := by
  have survivors : (Json.array (r.survivors.map (·.toJson))).DistinctKeys :=
    .arrayOf fun s _ => s.distinctKeys
  refine .object ?_ ?_
  · cases r.error <;> simp
  · cases r.error with
    | none => simpa using survivors
    | some e => simpa [Json.DistinctKeys.string] using survivors

/-! ## Values -/

theorem Record.toJson_injective : Function.Injective Record.toJson := by
  intro r r' same
  cases r
  cases r'
  simpa [toJson, fields] using same

theorem Outcome.fields_injective : Function.Injective Outcome.fields := by
  intro o o' same
  cases o <;> cases o' <;> simp [fields] at same ⊢
  exact same

theorem PidReport.toJson_injective : Function.Injective PidReport.toJson := by
  intro r r' same
  cases r
  cases r'
  simp only [toJson, Json.object.injEq, List.cons_append, List.nil_append, List.cons.injEq,
    Prod.mk.injEq, Json.number.injEq, Json.string.injEq, Json.bool.injEq, true_and] at same
  obtain ⟨rfl, rfl, rfl, rfl, outcome⟩ := same
  rw [Outcome.fields_injective outcome]

theorem TerminationReport.toJson_injective : Function.Injective TerminationReport.toJson := by
  intro r r' same
  cases r
  cases r'
  simp only [toJson, Json.object.injEq, List.cons.injEq, Prod.mk.injEq, Json.string.injEq,
    Json.array.injEq, true_and, and_true] at same
  obtain ⟨rfl, rfl, pids⟩ := same
  rw [PidReport.toJson_injective.list_map pids]

theorem CategoryReport.toJson_injective : Function.Injective CategoryReport.toJson := by
  have termination : Function.Injective fun t : Option TerminationReport =>
      t.elim Json.null (·.toJson) := by
    rintro (_ | t) (_ | t') same
    · rfl
    · simp [TerminationReport.toJson] at same
    · simp [TerminationReport.toJson] at same
    · rw [TerminationReport.toJson_injective same]
  intro r r' same
  cases r
  cases r'
  simp only [toJson, Json.object.injEq, List.cons.injEq, Prod.mk.injEq, Json.string.injEq,
    Json.array.injEq, Json.number.injEq, true_and, and_true] at same
  obtain ⟨rfl, rfl, discovered, rfl, ended⟩ := same
  rw [Record.toJson_injective.list_map discovered, termination ended]

theorem CascadeReport.toJson_injective : Function.Injective CascadeReport.toJson := by
  intro r r' same
  cases r
  cases r'
  simp only [toJson, Json.object.injEq, List.cons.injEq, Prod.mk.injEq, Json.array.injEq,
    true_and, and_true] at same
  rw [CategoryReport.toJson_injective.list_map same]

theorem Survivor.toJson_injective : Function.Injective Survivor.toJson := by
  intro s s' same
  simp only [toJson, Json.object.injEq, List.cons.injEq, Prod.mk.injEq, Json.string.injEq,
    true_and] at same
  have record : s.record = s'.record := Record.toJson_injective (congrArg Json.object same.2)
  cases s
  cases s'
  rw [Survivor.mk.injEq]
  exact ⟨same.1, record⟩

/-- An error that is there has a field, even if it says nothing. -/
theorem AuditReport.toJson_injective : Function.Injective AuditReport.toJson := by
  intro r r' same
  cases r with
  | mk survivors error =>
    cases r' with
    | mk survivors' error' =>
      simp only [toJson, Json.object.injEq, List.cons.injEq, Prod.mk.injEq, Json.array.injEq,
        true_and] at same
      obtain ⟨present, errors⟩ := same
      have alike : error = error' := by
        cases error <;> cases error' <;> simp at errors ⊢
        exact errors
      rw [Survivor.toJson_injective.list_map present, alike]

/-- No two reports have the same text, and no object in the text of one has a key twice. -/
theorem reports_told_from_json :
    (Function.Injective fun r : CascadeReport => r.toJson.pretty) ∧
    (Function.Injective fun r : AuditReport => r.toJson.pretty) ∧
    (∀ r : CascadeReport, r.toJson.DistinctKeys) ∧
    ∀ r : AuditReport, r.toJson.DistinctKeys := by
  refine ⟨?_, ?_, CascadeReport.distinctKeys, AuditReport.distinctKeys⟩
  · exact Json.pretty_injective.comp CascadeReport.toJson_injective
  · exact Json.pretty_injective.comp AuditReport.toJson_injective

end Straggler
