/-!
# Processes

A record of one live process, and snapshots of the process table: records in ascending order of
their process numbers, no number twice. A snapshot can be made of any list of records, and of two
with one number it keeps the one that came first.
-/

namespace Straggler

set_option autoImplicit false

abbrev Pid := Nat

structure Record where
  pid : Pid
  commandLine : String
  deriving DecidableEq, Repr, Inhabited

namespace Record

theorem order_trans (a b c : Record) (hab : decide (a.pid ≤ b.pid)) (hbc : decide (b.pid ≤ c.pid)) :
    decide (a.pid ≤ c.pid) :=
  decide_eq_true (Nat.le_trans (of_decide_eq_true hab) (of_decide_eq_true hbc))

theorem order_total (a b : Record) : decide (a.pid ≤ b.pid) || decide (b.pid ≤ a.pid) := by
  rcases Nat.le_total a.pid b.pid with h | h <;> simp [h]

/-- Keeps the first record of each run of equal process numbers. -/
def firsts (last : Option Pid) : List Record → List Record
  | [] => []
  | r :: rs =>
    if last = some r.pid then firsts last rs else r :: firsts (some r.pid) rs

theorem mem_of_mem_firsts {r : Record} {rs : List Record} {last : Option Pid}
    (h : r ∈ firsts last rs) : r ∈ rs := by
  induction rs generalizing last with
  | nil => simp [firsts] at h
  | cons a rs ih =>
    simp only [firsts] at h
    split at h
    · exact List.mem_cons_of_mem a (ih h)
    · rcases List.mem_cons.mp h with rfl | h
      · exact List.mem_cons_self
      · exact List.mem_cons_of_mem a (ih h)

theorem lt_of_mem_firsts {p : Pid} {r : Record} {rs : List Record}
    (above : ∀ a ∈ rs, p ≤ a.pid) (sorted : rs.Pairwise (·.pid ≤ ·.pid))
    (h : r ∈ firsts (some p) rs) : p < r.pid := by
  induction rs with
  | nil => simp [firsts] at h
  | cons a rs ih =>
    obtain ⟨ha, hrs⟩ := List.pairwise_cons.mp sorted
    have below : p ≤ a.pid := above a List.mem_cons_self
    simp only [firsts] at h
    split at h
    · exact ih (fun b hb => above b (List.mem_cons_of_mem a hb)) hrs h
    · rename_i ne
      have lt : p < a.pid := Nat.lt_of_le_of_ne below fun e => ne (congrArg some e)
      rcases List.mem_cons.mp h with rfl | h
      · exact lt
      · exact Nat.lt_of_lt_of_le lt (ha r (mem_of_mem_firsts h))

theorem pairwise_firsts {rs : List Record} (sorted : rs.Pairwise (·.pid ≤ ·.pid))
    (last : Option Pid) : (firsts last rs).Pairwise (·.pid < ·.pid) := by
  induction rs generalizing last with
  | nil => simp [firsts]
  | cons a rs ih =>
    obtain ⟨ha, hrs⟩ := List.pairwise_cons.mp sorted
    simp only [firsts]
    split
    · exact ih hrs last
    · exact List.pairwise_cons.mpr ⟨fun b hb => lt_of_mem_firsts ha hrs hb, ih hrs _⟩

theorem nodup_pids {rs : List Record} (ascending : rs.Pairwise (·.pid < ·.pid)) :
    (rs.map (·.pid)).Nodup := by
  rw [List.Nodup, List.pairwise_map]
  exact ascending.imp Nat.ne_of_lt

end Record

structure Snapshot where
  records : Array Record
  ascending : records.toList.Pairwise (·.pid < ·.pid)

namespace Snapshot

/-- Sorting is stable, so of equal numbers the one given first comes first. -/
def ofRecords (rs : List Record) : Snapshot where
  records := (Record.firsts none (rs.mergeSort fun a b => decide (a.pid ≤ b.pid))).toArray
  ascending := by
    refine Record.pairwise_firsts ?_ none
    have sorted := List.pairwise_mergeSort Record.order_trans Record.order_total rs
    exact sorted.imp fun hab => of_decide_eq_true hab

def empty : Snapshot :=
  ofRecords []

/-- Halves the part of the table in which the number may still be. -/
def searchBetween (records : Array Record) (pid : Pid) (lo hi : Nat) : Bool :=
  if lo < hi then
    let mid := (lo + hi) / 2
    match records[mid]? with
    | none => false
    | some r =>
      if r.pid = pid then true
      else if r.pid < pid then searchBetween records pid (mid + 1) hi
      else searchBetween records pid lo mid
  else false
termination_by hi - lo

def contains (s : Snapshot) (pid : Pid) : Bool :=
  searchBetween s.records pid 0 s.records.size

end Snapshot

end Straggler
