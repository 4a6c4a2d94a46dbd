import Mathlib.Data.List.Basic
import Straggler.Pattern.Marked

/-!
# What a pattern matches

The rules of matching, read in both directions, one kind of pattern at a time. A repetition is a
fixed number of rounds and then some more, so what it matches can be told from single rounds; with
that, a text taken literally matches itself alone, and a run of characters of a set matches the
texts of such characters.

The bounds of a repetition are taken to be in order. With bounds that are not, nothing matches.
-/

namespace Straggler.Pattern

open Unicode

set_option autoImplicit false

namespace Regex

/-! ## Matching, one kind of pattern at a time -/

variable {r a b : Regex} {pre mid post : List Char}

theorem matches_empty : empty.Matches pre mid post ↔ mid = [] := by
  constructor
  · rintro ⟨⟩
    rfl
  · rintro rfl
    exact .empty

theorem matches_set {s : CharSet} :
    (set s).Matches pre mid post ↔ ∃ c, s.has c = true ∧ mid = [c] := by
  constructor
  · rintro ⟨⟩
    rename_i c h
    exact ⟨c, h, rfl⟩
  · rintro ⟨c, h, rfl⟩
    exact .set h

theorem matches_look {l : Look} :
    (look l).Matches pre mid post ↔ mid = [] ∧ l.holds (placeAt pre post) = true := by
  constructor
  · rintro ⟨⟩
    rename_i h
    exact ⟨rfl, h⟩
  · rintro ⟨rfl, h⟩
    exact .look h

theorem matches_seq :
    (seq a b).Matches pre mid post ↔
      ∃ u v, mid = u ++ v ∧ a.Matches pre u (v ++ post) ∧ b.Matches (pre ++ u) v post := by
  constructor
  · rintro ⟨⟩
    rename_i u v ha hb
    exact ⟨u, v, rfl, ha, hb⟩
  · rintro ⟨u, v, rfl, ha, hb⟩
    exact .seq ha hb

theorem matches_alt :
    (alt a b).Matches pre mid post ↔ a.Matches pre mid post ∨ b.Matches pre mid post := by
  constructor
  · intro h
    cases h with
    | altLeft ha => exact .inl ha
    | altRight hb => exact .inr hb
  · rintro (ha | hb)
    · exact .altLeft ha
    · exact .altRight hb

/-- One round and the rest of them. The bounds go down together. -/
theorem matches_times_succ {min : Nat} {max : Option Nat} :
    (times r (min + 1) max).Matches pre mid post ↔
      max ≠ some 0 ∧ (seq r (times r min (max.map (· - 1)))).Matches pre mid post := by
  rw [matches_seq]
  constructor
  · intro h
    cases h with
    | again more hr hs => exact ⟨more, _, _, rfl, hr, hs⟩
  · rintro ⟨more, u, v, rfl, hr, hs⟩
    exact .again more hr hs

theorem matches_times_zero {max : Option Nat} :
    (times r 0 max).Matches pre mid post ↔
      mid = [] ∨ max ≠ some 0 ∧ (seq r (times r 0 (max.map (· - 1)))).Matches pre mid post := by
  rw [matches_seq]
  constructor
  · intro h
    cases h with
    | stop => exact .inl rfl
    | again more hr hs => exact .inr ⟨more, _, _, rfl, hr, hs⟩
  · rintro (rfl | ⟨more, u, v, rfl, hr, hs⟩)
    · exact .stop
    · exact .again more hr hs

/-- A repetition without bounds that takes anything has a first round that does. -/
theorem matches_star_cons {c : Char} :
    (times r 0 none).Matches pre (c :: mid) post ↔
      ∃ u v, mid = u ++ v ∧ r.Matches pre (c :: u) (v ++ post) ∧
        (times r 0 none).Matches (pre ++ c :: u) v post := by
  constructor
  · intro h
    generalize hwhole : times r 0 none = whole at h
    generalize htext : c :: mid = text at h
    induction h generalizing mid with
    | empty | set | look | seq | altLeft | altRight => cases hwhole
    | stop => cases htext
    | @again r' min max pre u v post more hr hs _ ih =>
      cases hwhole
      cases u with
      | nil =>
        simp only [List.append_nil] at ih
        exact ih rfl htext
      | cons d u =>
        obtain ⟨rfl, rfl⟩ := List.cons.inj htext
        exact ⟨u, v, rfl, hr, hs⟩
  · rintro ⟨u, v, rfl, hr, hs⟩
    exact .again (by simp) hr hs

theorem matches_empty_seq : (seq empty b).Matches pre mid post ↔ b.Matches pre mid post := by
  rw [matches_seq]
  constructor
  · rintro ⟨u, v, rfl, hu, hv⟩
    cases matches_empty.mp hu
    simpa using hv
  · intro h
    exact ⟨[], mid, rfl, .empty, by simpa using h⟩

theorem matches_seq_assoc :
    (seq (seq a b) r).Matches pre mid post ↔ (seq a (seq b r)).Matches pre mid post := by
  simp only [matches_seq]
  constructor
  · rintro ⟨_, w, rfl, ⟨u, v, rfl, ha, hb⟩, hr⟩
    exact ⟨u, v ++ w, List.append_assoc .., by simpa using ha, v, w, rfl, hb, by simpa using hr⟩
  · rintro ⟨u, _, rfl, ha, v, w, rfl, hb, hr⟩
    exact ⟨u ++ v, w, (List.append_assoc ..).symm, ⟨u, v, rfl, by simpa using ha, hb⟩,
      by simpa using hr⟩

/-! ## Repetitions, round by round -/

def rounds (r : Regex) : Nat → Regex
  | 0 => empty
  | n + 1 => seq r (rounds r n)

/-- The rounds that have to be there come first. -/
theorem matches_times {min : Nat} {max : Option Nat} (ordered : max.all (min ≤ ·) = true) :
    (times r min max).Matches pre mid post ↔
      (seq (rounds r min) (times r 0 (max.map (· - min)))).Matches pre mid post := by
  induction min generalizing pre mid max with
  | zero =>
    rw [rounds, matches_empty_seq]
    cases max <;> rfl
  | succ min ih =>
    have some_pos : max ≠ some 0 := by
      rintro rfl
      simp at ordered
    have lower : (max.map (· - 1)).all (min ≤ ·) = true := by
      cases max with
      | none => rfl
      | some max =>
        simp only [Option.all_some, decide_eq_true_eq, Option.map_some] at ordered ⊢
        omega
    have fewer : (max.map (· - 1)).map (· - min) = max.map (· - (min + 1)) := by
      cases max with
      | none => rfl
      | some max =>
        simp only [Option.map_some, Option.some.injEq]
        omega
    rw [matches_times_succ, rounds, matches_seq_assoc, matches_seq, matches_seq]
    simp only [ih lower, fewer, and_iff_right some_pos]

theorem matches_upTo_succ {n : Nat} (h : (times r 0 (some n)).Matches pre mid post) :
    (times r 0 (some (n + 1))).Matches pre mid post := by
  induction n generalizing pre mid with
  | zero =>
    rcases matches_times_zero.mp h with rfl | ⟨more, _⟩
    · exact .stop
    · exact absurd rfl more
  | succ n ih =>
    rcases matches_times_zero.mp h with rfl | ⟨_, hseq⟩
    · exact .stop
    · obtain ⟨u, v, rfl, hr, hs⟩ := matches_seq.mp hseq
      exact .again (by simp) hr (ih hs)

/-- Up to so many rounds are as many rounds each of which may take nothing. -/
theorem matches_upTo {n : Nat} :
    (times r 0 (some n)).Matches pre mid post ↔
      (rounds (alt r empty) n).Matches pre mid post := by
  induction n generalizing pre mid with
  | zero =>
    rw [matches_times_zero, rounds, matches_empty]
    simp
  | succ n ih =>
    rw [matches_times_zero, rounds, matches_seq, matches_seq]
    constructor
    · rintro (rfl | ⟨_, u, v, rfl, hu, hv⟩)
      · exact ⟨[], [], rfl, .altRight .empty, ih.mp .stop⟩
      · exact ⟨u, v, rfl, .altLeft hu, ih.mp hv⟩
    · rintro ⟨u, v, rfl, hu, hv⟩
      rcases matches_alt.mp hu with hu | hu
      · exact .inr ⟨by simp, u, v, rfl, hu, ih.mpr hv⟩
      · cases matches_empty.mp hu
        rw [List.append_nil] at hv
        simpa [matches_seq] using matches_times_zero.mp (matches_upTo_succ (ih.mpr hv))

theorem matches_times_mono (more : ∀ pre mid post, a.Matches pre mid post → b.Matches pre mid post)
    {min : Nat} {max : Option Nat} (h : (times a min max).Matches pre mid post) :
    (times b min max).Matches pre mid post := by
  generalize hwhole : times a min max = whole at h
  induction h generalizing min max with
  | empty | set | look | seq | altLeft | altRight => cases hwhole
  | stop =>
    cases hwhole
    exact .stop
  | again some_pos hr _ _ ih =>
    cases hwhole
    exact .again some_pos (more _ _ _ hr) (ih rfl)

/-- What a repetition matches depends only on what a round of it does. -/
theorem matches_times_congr
    (same : ∀ pre mid post, a.Matches pre mid post ↔ b.Matches pre mid post)
    (min : Nat) (max : Option Nat) :
    (times a min max).Matches pre mid post ↔ (times b min max).Matches pre mid post :=
  ⟨matches_times_mono fun _ _ _ => (same _ _ _).mp,
    matches_times_mono fun _ _ _ => (same _ _ _).mpr⟩

/-! ## Texts and runs of characters -/

/-- A list with one item stands for that item alone, which changes nothing. -/
theorem matches_seqs_cons {rs : List Regex} :
    (seqs (r :: rs)).Matches pre mid post ↔ (seq r (seqs rs)).Matches pre mid post := by
  cases rs with
  | cons s rs => rfl
  | nil =>
    rw [matches_seq]
    constructor
    · intro h
      exact ⟨mid, [], (List.append_nil mid).symm, h, .empty⟩
    · rintro ⟨u, v, rfl, hu, hv⟩
      cases matches_empty.mp hv
      rw [List.append_nil]
      exact hu

theorem matches_seqs_append {rs ss : List Regex} :
    (seqs (rs ++ ss)).Matches pre mid post ↔
      (seq (seqs rs) (seqs ss)).Matches pre mid post := by
  induction rs generalizing pre mid with
  | nil => exact matches_empty_seq.symm
  | cons r rs ih =>
    have first : (seq (seqs (r :: rs)) (seqs ss)).Matches pre mid post ↔
        (seq (seq r (seqs rs)) (seqs ss)).Matches pre mid post := by
      rw [matches_seq, matches_seq]
      simp only [matches_seqs_cons]
    rw [List.cons_append, matches_seqs_cons, first, matches_seq_assoc, matches_seq, matches_seq]
    simp only [ih]

def literal (text : List Char) : List Regex :=
  text.map fun c => set (.single c)

theorem matches_literal {text : List Char} :
    (seqs (literal text)).Matches pre mid post ↔ mid = text := by
  induction text generalizing pre mid with
  | nil => exact matches_empty
  | cons c text ih =>
    rw [literal, List.map_cons, matches_seqs_cons, matches_seq]
    constructor
    · rintro ⟨u, v, rfl, hu, hv⟩
      obtain ⟨d, hd, rfl⟩ := matches_set.mp hu
      have same : d = c := by simpa using hd
      rw [same, ih.mp hv]
      rfl
    · rintro rfl
      exact ⟨[c], text, rfl, .set (by simp), ih.mpr rfl⟩

/-- Any number of characters of a set. -/
theorem matches_run {s : CharSet} :
    (times (set s) 0 none).Matches pre mid post ↔ ∀ c ∈ mid, s.has c = true := by
  induction mid generalizing pre with
  | nil => exact iff_of_true .stop (by simp)
  | cons c mid ih =>
    rw [matches_star_cons, List.forall_mem_cons]
    constructor
    · rintro ⟨u, v, rfl, hu, hv⟩
      obtain ⟨d, hd, huv⟩ := matches_set.mp hu
      obtain ⟨rfl, rfl⟩ := List.cons.inj huv
      exact ⟨hd, ih.mp hv⟩
    · rintro ⟨hc, hmid⟩
      exact ⟨[], mid, rfl, .set hc, ih.mpr hmid⟩

theorem matches_run_pos {s : CharSet} :
    (times (set s) 1 none).Matches pre mid post ↔ mid ≠ [] ∧ ∀ c ∈ mid, s.has c = true := by
  rw [matches_times_succ, matches_seq]
  constructor
  · rintro ⟨_, u, v, rfl, hu, hv⟩
    obtain ⟨c, hc, rfl⟩ := matches_set.mp hu
    exact ⟨by simp, List.forall_mem_cons.mpr ⟨hc, matches_run.mp hv⟩⟩
  · rintro ⟨some_pos, hmid⟩
    obtain ⟨c, v, rfl⟩ := List.exists_cons_of_ne_nil some_pos
    obtain ⟨hc, hv⟩ := List.forall_mem_cons.mp hmid
    exact ⟨by simp, [c], v, rfl, .set hc, matches_run.mpr hv⟩

end Regex

end Straggler.Pattern
