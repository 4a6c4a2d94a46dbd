import Mathlib.Data.List.Sort
import Straggler.Proofs.World

/-!
# The normal form of a snapshot

A snapshot is known by who is found under each process number, and making one keeps for each
number the record that was given first: sorting is stable, so it does not change the order of
records with one number, and dropping repetitions keeps the first of each run. Looking up a number
halves the table each time, which is right since the numbers rise strictly.
-/

namespace Straggler

set_option autoImplicit false

/-! ## Who comes first -/

namespace Record

/-- Sorting keeps the records with one number in the order in which they were given. -/
theorem filter_mergeSort (rs : List Record) (pid : Pid) :
    (rs.mergeSort fun a b => decide (a.pid ≤ b.pid)).filter (·.pid == pid) =
      rs.filter (·.pid == pid) := by
  have equal : (rs.filter (·.pid == pid)).Pairwise fun a b => decide (a.pid ≤ b.pid) := by
    refine List.pairwise_of_forall_mem_list fun a ha b hb => ?_
    have ha' : a.pid = pid := by simpa using List.of_mem_filter ha
    have hb' : b.pid = pid := by simpa using List.of_mem_filter hb
    simp [ha', hb']
  have sub := (List.sublist_mergeSort order_trans order_total equal List.filter_sublist).filter
    (·.pid == pid)
  simp only [List.filter_filter, Bool.and_self] at sub
  have perm := (List.mergeSort_perm rs fun a b => decide (a.pid ≤ b.pid)).filter (·.pid == pid)
  exact (sub.eq_of_length perm.length_eq.symm).symm

theorem find?_mergeSort (rs : List Record) (pid : Pid) :
    (rs.mergeSort fun a b => decide (a.pid ≤ b.pid)).find? (·.pid == pid) =
      rs.find? (·.pid == pid) := by
  rw [← List.head?_filter, filter_mergeSort, List.head?_filter]

/-- The records that are dropped are never the first with their number. -/
theorem find?_firsts {pid : Pid} {last : Option Pid} (other : last ≠ some pid) (rs : List Record) :
    (firsts last rs).find? (·.pid == pid) = rs.find? (·.pid == pid) := by
  induction rs generalizing last with
  | nil => rfl
  | cons a rs ih =>
    by_cases repeated : last = some a.pid
    · have ne : a.pid ≠ pid := by
        intro same
        apply other
        rw [repeated, same]
      rw [firsts, if_pos repeated, ih other, List.find?_cons_of_neg (by simpa using ne)]
    · rw [firsts, if_neg repeated]
      by_cases same : a.pid = pid
      · have found (l : List Record) : (a :: l).find? (·.pid == pid) = some a :=
          List.find?_cons_of_pos (by simpa using same)
        rw [found, found]
      · have passed (l : List Record) : (a :: l).find? (·.pid == pid) = l.find? (·.pid == pid) :=
          List.find?_cons_of_neg (by simpa using same)
        rw [passed, passed]
        apply ih
        simpa using same

end Record

namespace Snapshot

theorem eq_of_mem_iff {s t : Snapshot} (h : ∀ r, r ∈ s.records ↔ r ∈ t.records) : s = t := by
  have irrefl : Std.Irrefl fun a b : Record => a.pid < b.pid := ⟨fun a => Nat.lt_irrefl a.pid⟩
  have antisymm : Std.Antisymm fun a b : Record => a.pid < b.pid :=
    ⟨fun _ _ hab hba => absurd hab (Nat.lt_asymm hba)⟩
  have records : s.records.toList = t.records.toList := by
    refine List.Pairwise.eq_of_mem_iff s.ascending t.ascending fun r => ?_
    rw [Array.mem_toList_iff, Array.mem_toList_iff]
    exact h r
  cases s
  cases t
  simpa using Array.toList_inj.mp records

theorem mem_ofRecords (given : List Record) (r : Record) :
    r ∈ (ofRecords given).records ↔ given.find? (·.pid == r.pid) = some r := by
  have found : (ofRecords given).records.toList.find? (·.pid == r.pid) =
      given.find? (·.pid == r.pid) := by
    rw [ofRecords, List.toList_toArray, Record.find?_firsts (by simp), Record.find?_mergeSort]
  rw [mem_iff_find?, found]

theorem ofRecords_records (s : Snapshot) : ofRecords s.records.toList = s :=
  eq_of_mem_iff fun r => by rw [mem_ofRecords, mem_iff_find?]

theorem ofRecords_perm {given other : List Record} (perm : given.Perm other)
    (distinct : (given.map (·.pid)).Nodup) : ofRecords other = ofRecords given := by
  have distinct' : (other.map (·.pid)).Nodup := (perm.map (·.pid)).nodup_iff.mp distinct
  refine eq_of_mem_iff fun r => ?_
  rw [mem_ofRecords, mem_ofRecords, Record.find?_eq_some_iff_mem distinct,
    Record.find?_eq_some_iff_mem distinct']
  exact perm.mem_iff.symm

/-! ## Looking up a number -/

/-- One of the places from `lo` on and before `hi` holds the number. -/
def HeldBetween (s : Snapshot) (pid : Pid) (lo hi : Nat) : Prop :=
  ∃ i r, lo ≤ i ∧ i < hi ∧ s.records[i]? = some r ∧ r.pid = pid

theorem lt_of_pid_lt (s : Snapshot) {i j : Nat} {a b : Record} (ha : s.records[i]? = some a)
    (hb : s.records[j]? = some b) (lt : a.pid < b.pid) : i < j := by
  obtain ⟨hi, rfl⟩ := Array.getElem?_eq_some_iff.mp ha
  obtain ⟨hj, rfl⟩ := Array.getElem?_eq_some_iff.mp hb
  by_contra ge
  rcases Nat.lt_or_eq_of_le (Nat.not_lt.mp ge) with below | rfl
  · have above := List.pairwise_iff_getElem.mp s.ascending j i (by simpa using hj)
      (by simpa using hi) below
    simp only [Array.getElem_toList] at above
    exact Nat.lt_asymm above lt
  · exact Nat.lt_irrefl _ lt

/-- Halving the part in which a number may still be does not lose it. -/
theorem searchBetween_iff (s : Snapshot) (pid : Pid) (lo hi : Nat) (within : hi ≤ s.records.size) :
    searchBetween s.records pid lo hi = true ↔ s.HeldBetween pid lo hi := by
  fun_induction searchBetween s.records pid lo hi with
  | case1 lo hi lt mid none =>
    have beyond := Array.getElem?_eq_none_iff.mp none
    omega
  | case2 lo hi lt mid r hr same =>
    exact iff_of_true rfl ⟨mid, r, by omega, by omega, hr, same⟩
  | case3 lo hi lt mid r hr ne below ih =>
    rw [ih within]
    constructor
    · rintro ⟨i, a, hlo, hhi, ha, rfl⟩
      exact ⟨i, a, by omega, hhi, ha, rfl⟩
    · rintro ⟨i, a, hlo, hhi, ha, rfl⟩
      have above : mid < i := s.lt_of_pid_lt hr ha below
      exact ⟨i, a, above, hhi, ha, rfl⟩
  | case4 lo hi lt mid r hr ne notBelow ih =>
    rw [ih (by omega)]
    constructor
    · rintro ⟨i, a, hlo, hhi, ha, rfl⟩
      exact ⟨i, a, hlo, by omega, ha, rfl⟩
    · rintro ⟨i, a, hlo, hhi, ha, rfl⟩
      have above : a.pid < r.pid := Nat.lt_of_le_of_ne (Nat.not_lt.mp notBelow) (Ne.symm ne)
      have under : i < mid := s.lt_of_pid_lt ha hr above
      exact ⟨i, a, hlo, under, ha, rfl⟩
  | case5 lo hi notLt =>
    refine iff_of_false (by simp) ?_
    rintro ⟨i, _, hlo, hhi, _⟩
    omega

theorem contains_iff (s : Snapshot) (pid : Pid) :
    s.contains pid = true ↔ ∃ r ∈ s.records, r.pid = pid := by
  rw [contains, searchBetween_iff s pid 0 s.records.size (Nat.le_refl _)]
  constructor
  · rintro ⟨i, r, _, _, hr, same⟩
    exact ⟨r, Array.mem_of_getElem? hr, same⟩
  · rintro ⟨r, hr, same⟩
    obtain ⟨i, hi, rfl⟩ := Array.mem_iff_getElem.mp hr
    exact ⟨i, _, Nat.zero_le i, hi, Array.getElem?_eq_getElem hi, same⟩

theorem contains_ofRecords (given : List Record) (pid : Pid) :
    (ofRecords given).contains pid = true ↔ ∃ r ∈ given, r.pid = pid := by
  rw [contains_iff]
  constructor
  · rintro ⟨r, hr, same⟩
    exact ⟨r, List.mem_of_find?_eq_some ((mem_ofRecords given r).mp hr), same⟩
  · rintro ⟨r, hr, rfl⟩
    have isSome : (given.find? (·.pid == r.pid)).isSome :=
      List.find?_isSome.mpr ⟨r, hr, beq_self_eq_true r.pid⟩
    obtain ⟨first, hfirst⟩ := Option.isSome_iff_exists.mp isSome
    have same : first.pid = r.pid := by simpa using List.find?_some hfirst
    exact ⟨first, (mem_ofRecords given first).mpr (by rw [same, hfirst]), same⟩

/-! ## The normal form -/

/-- The snapshot holds, in the order of their numbers, exactly those records that were given first
with their number, and finds exactly the numbers that were given. -/
structure Normal (s : Snapshot) (given : List Record) : Prop where
  ascending : s.records.toList.Pairwise (·.pid < ·.pid)
  mem_iff : ∀ r, r ∈ s.records ↔ given.find? (·.pid == r.pid) = some r
  contains_iff : ∀ pid, s.contains pid = true ↔ ∃ r ∈ given, r.pid = pid

/-- Every list of records has its normal form. The order of records with distinct numbers does not
count, and a snapshot is its own normal form. -/
theorem ofRecords_normal (given : List Record) :
    (ofRecords given).Normal given ∧
    (∀ other, given.Perm other → (given.map (·.pid)).Nodup → ofRecords other = ofRecords given) ∧
    ofRecords (ofRecords given).records.toList = ofRecords given := by
  refine ⟨⟨(ofRecords given).ascending, mem_ofRecords given, contains_ofRecords given⟩, ?_, ?_⟩
  · intro other perm distinct
    exact ofRecords_perm perm distinct
  · exact ofRecords_records (ofRecords given)

theorem ofRecords_normal_shuffled :
    [⟨30, "c"⟩, ⟨10, "a"⟩, ⟨20, "b"⟩].Perm [(⟨10, "a"⟩ : Record), ⟨20, "b"⟩, ⟨30, "c"⟩] ∧
    ([⟨30, "c"⟩, ⟨10, "a"⟩, ⟨20, "b"⟩].map fun r : Record => r.pid).Nodup ∧
    ofRecords [⟨10, "a"⟩, ⟨20, "b"⟩, ⟨30, "c"⟩] = ofRecords [⟨30, "c"⟩, ⟨10, "a"⟩, ⟨20, "b"⟩] :=
  have perm : [⟨30, "c"⟩, ⟨10, "a"⟩, ⟨20, "b"⟩].Perm
      [(⟨10, "a"⟩ : Record), ⟨20, "b"⟩, ⟨30, "c"⟩] := by decide
  have distinct : ([⟨30, "c"⟩, ⟨10, "a"⟩, ⟨20, "b"⟩].map fun r : Record => r.pid).Nodup := by decide
  ⟨perm, distinct, (ofRecords_normal _).2.1 _ perm distinct⟩

end Snapshot

end Straggler
