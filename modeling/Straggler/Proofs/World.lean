import Mathlib.Data.List.Nodup
import Straggler.Machine

/-!
# Worlds

What a machine is taken for: there are live processes, the table shows them, a probe finds them,
the forceful signal ends the one it is sent to, and no call starts a process or changes a command
line. Processes may end by themselves at any call, and nothing else is known of the other signals.
-/

namespace Straggler

set_option autoImplicit false

variable {σ : Type}

abbrev Population :=
  Pid → Option String

def Shrinks (before after : Population) : Prop :=
  ∀ pid line, after pid = some line → before pid = some line

/-- The signals of such a world may do anything else than keep the forceful one from its effect,
start a process or change a command line. -/
structure World (m : Machine σ) (killSignal : Signal) (alive : σ → Population) : Prop where
  snapshot_shrinks : ∀ s, Shrinks (alive s) (alive (m.snapshot s).2)
  send_shrinks : ∀ pid signal s, Shrinks (alive s) (alive (m.send pid signal s).2)
  probe_shrinks : ∀ pid s, Shrinks (alive s) (alive (m.isAlive pid s).2)
  sleep_shrinks : ∀ ms s, Shrinks (alive s) (alive (m.sleep ms s).2)
  listed : ∀ s, ∃ snapshot, (m.snapshot s).1 = .ok snapshot ∧
    ∀ r : Record, r ∈ snapshot.records ↔ alive s r.pid = some r.commandLine
  probed : ∀ pid s, (m.isAlive pid s).1 = (alive s pid).isSome
  killed : ∀ pid s, (alive s pid).isSome → alive (m.send pid killSignal s).2 pid = none ∧
    ((m.send pid killSignal s).1 = .sent ∨ (m.send pid killSignal s).1 = .noSuchProcess)
  gone : ∀ pid signal s, (m.send pid signal s).1 = .noSuchProcess →
    alive (m.send pid signal s).2 pid = none

/-- A signal to nobody is answered as such. -/
def NoticesAbsence (m : Machine σ) (alive : σ → Population) : Prop :=
  ∀ pid signal s, alive s pid = none → (m.send pid signal s).1 = .noSuchProcess

namespace Shrinks

theorem refl (a : Population) : Shrinks a a :=
  fun _ _ h => h

theorem trans {a b c : Population} (hab : Shrinks a b) (hbc : Shrinks b c) : Shrinks a c :=
  fun pid line h => hab pid line (hbc pid line h)

theorem none {a b : Population} {pid : Pid} (h : Shrinks a b) (ha : a pid = none) :
    b pid = none := by
  cases hb : b pid with
  | none => rfl
  | some line =>
    rw [h pid line hb] at ha
    cases ha

end Shrinks

/-! ## A world

Processes that take other signals than the forceful one each in its own way: some exit, some leave
without a trace, some cannot be signaled, some stay. -/

theorem Record.find?_eq_some_iff_mem {rs : List Record} (distinct : (rs.map (·.pid)).Nodup)
    (r : Record) : rs.find? (·.pid == r.pid) = some r ↔ r ∈ rs := by
  constructor
  · exact List.mem_of_find?_eq_some
  · intro hr
    have isSome : (rs.find? (·.pid == r.pid)).isSome :=
      List.find?_isSome.mpr ⟨r, hr, beq_self_eq_true r.pid⟩
    obtain ⟨found, hfound⟩ := Option.isSome_iff_exists.mp isSome
    have hpid : found.pid = r.pid := by simpa using List.find?_some hfound
    rw [hfound, List.inj_on_of_nodup_map distinct (List.mem_of_find?_eq_some hfound) hr hpid]

namespace Snapshot

def population (s : Snapshot) : Population :=
  fun pid => (s.records.toList.find? (·.pid == pid)).map (·.commandLine)

def without (s : Snapshot) (pid : Pid) : Snapshot where
  records := (s.records.toList.filter (·.pid != pid)).toArray
  ascending := s.ascending.filter _

theorem mem_iff_find? (s : Snapshot) (r : Record) :
    r ∈ s.records ↔ s.records.toList.find? (·.pid == r.pid) = some r := by
  rw [Record.find?_eq_some_iff_mem (Record.nodup_pids s.ascending), Array.mem_toList_iff]

theorem mem_records_iff (s : Snapshot) (r : Record) :
    r ∈ s.records ↔ s.population r.pid = some r.commandLine := by
  constructor
  · intro h
    rw [population, (s.mem_iff_find? r).mp h]
    rfl
  · intro h
    obtain ⟨found, hfound, hline⟩ := Option.map_eq_some_iff.mp h
    have hpid : found.pid = r.pid := by simpa using List.find?_some hfound
    obtain rfl : found = r := by
      cases found
      cases r
      simp_all
    exact Array.mem_toList_iff.mp (List.mem_of_find?_eq_some hfound)

theorem mem_without {s : Snapshot} {pid : Pid} {r : Record} :
    r ∈ (s.without pid).records ↔ r ∈ s.records ∧ r.pid ≠ pid := by
  simp [without]

theorem shrinks_without (s : Snapshot) (pid : Pid) :
    Shrinks s.population (s.without pid).population := by
  intro other line h
  have mem := ((s.without pid).mem_records_iff ⟨other, line⟩).mpr h
  exact (s.mem_records_iff ⟨other, line⟩).mp (mem_without.mp mem).1

theorem population_without (s : Snapshot) (pid : Pid) : (s.without pid).population pid = none := by
  cases h : (s.without pid).population pid with
  | none => rfl
  | some line =>
    have mem := ((s.without pid).mem_records_iff ⟨pid, line⟩).mpr h
    exact absurd rfl (mem_without.mp mem).2

def deliver (killSignal : Signal) (pid : Pid) (signal : Signal) (s : Snapshot) :
    Delivery × Snapshot :=
  if s.population pid = none then (.noSuchProcess, s)
  else if signal = killSignal then (.sent, s.without pid)
  else
    match pid % 4 with
    | 0 => (.sent, s.without pid)
    | 1 => (.noSuchProcess, s.without pid)
    | 2 => (.failed "Operation not permitted", s)
    | _ => (.sent, s)

def machine (killSignal : Signal) : Machine Snapshot where
  snapshot := fun s => (.ok s, s)
  send := deliver killSignal
  isAlive := fun pid s => ((s.population pid).isSome, s)
  sleep := fun _ s => ((), s)

theorem deliver_eq (killSignal : Signal) (pid : Pid) (signal : Signal) (s : Snapshot) :
    (deliver killSignal pid signal s).2 = s ∧
        ((deliver killSignal pid signal s).1 = .noSuchProcess → s.population pid = none) ∨
      (deliver killSignal pid signal s).2 = s.without pid := by
  unfold deliver
  split
  · exact .inl ⟨rfl, fun _ => ‹_›⟩
  · split
    · exact .inr rfl
    · split
      · exact .inr rfl
      · exact .inr rfl
      · exact .inl ⟨rfl, nofun⟩
      · exact .inl ⟨rfl, nofun⟩

theorem machine_world (killSignal : Signal) : World (machine killSignal) killSignal population where
  snapshot_shrinks := fun s => .refl s.population
  send_shrinks := by
    intro pid signal s
    change Shrinks s.population (deliver killSignal pid signal s).2.population
    rcases deliver_eq killSignal pid signal s with ⟨h, _⟩ | h
    · rw [h]
      exact .refl s.population
    · rw [h]
      exact s.shrinks_without pid
  probe_shrinks := fun _ s => .refl s.population
  sleep_shrinks := fun _ s => .refl s.population
  listed := fun s => ⟨s, rfl, s.mem_records_iff⟩
  probed := fun _ _ => rfl
  killed := by
    intro pid s present
    have delivered : deliver killSignal pid killSignal s = (.sent, s.without pid) := by
      rw [deliver, if_neg (Option.ne_none_iff_isSome.mpr present), if_pos rfl]
    change (deliver killSignal pid killSignal s).2.population pid = none ∧ _
    exact ⟨by rw [delivered]; exact s.population_without pid, .inl (congrArg Prod.fst delivered)⟩
  gone := by
    intro pid signal s answer
    change (deliver killSignal pid signal s).2.population pid = none
    rcases deliver_eq killSignal pid signal s with ⟨h, absent⟩ | h
    · rw [h]
      exact absent answer
    · rw [h]
      exact s.population_without pid

theorem machine_noticesAbsence (killSignal : Signal) :
    NoticesAbsence (machine killSignal) population := by
  intro pid signal s absent
  change (deliver killSignal pid signal s).1 = _
  rw [deliver, if_pos absent]

end Snapshot

end Straggler
