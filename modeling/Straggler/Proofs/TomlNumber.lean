import Straggler.Proofs.Delimited
import Straggler.Toml.Number

/-!
# Whole numbers are read back

A decimal numeral with a blank or the end of a line after it is no date, no time and no number with
a fraction, so it is read as the whole number that was written, if that fits 64 bits.
-/

namespace Straggler.Toml

set_option autoImplicit false

open Unicode (hexValue?)

/-- The text goes on with a blank or the end of a line, or not at all. -/
def Closes (s : List Char) : Prop :=
  ∀ c ∈ s.head?, c = ' ' ∨ c = '\t' ∨ c = '\n'

theorem Closes.stopsAt {s : List Char} (hs : Closes s) {p : Char → Bool}
    (none : p ' ' = false ∧ p '\t' = false ∧ p '\n' = false) : StopsAt p s := by
  intro c hc
  rcases hs c hc with rfl | rfl | rfl
  · exact none.1
  · exact none.2.1
  · exact none.2.2

/-- A character that neither goes on with a numeral nor ends the value. -/
def Foreign (c : Char) : Prop :=
  c.isDigit = false ∧ c ≠ ' ' ∧ c ≠ '\t' ∧ c ≠ '\n'

instance (c : Char) : Decidable (Foreign c) :=
  inferInstanceAs (Decidable (_ ∧ _))

/-- So many digits at the front are digits of the numeral. -/
theorem digits?_numeral {u s : List Char} (hs : Closes s) {n v : Nat} {r : List Char}
    (h : digits? n (u ++ s) = some (v, r)) : n ≤ u.length ∧ r = u.drop n ++ s := by
  simp only [digits?] at h
  split at h
  · next enough =>
    simp only [Bool.and_eq_true, decide_eq_true_eq, List.all_eq_true] at enough
    obtain ⟨length, digit⟩ := enough
    have within : n ≤ u.length := by
      by_contra short
      cases s with
      | nil =>
        simp only [List.append_nil, List.length_take] at length
        omega
      | cons c s =>
        have first : c ∈ (u ++ c :: s).take n := by
          rw [List.take_append, show n - u.length = n - u.length - 1 + 1 by omega]
          simp
        have stops := hs.stopsAt (p := Char.isDigit) (by decide) c rfl
        simp [digit c first] at stops
    rw [List.drop_append_of_le_length within] at h
    simp only [Option.some.injEq, Prod.mk.injEq] at h
    exact ⟨within, h.2.symm⟩
  · cases h

section Numbers

variable {u s : List Char} (hu : ∀ c ∈ u, c.isDigit = true) (hs : Closes s)
include hu hs

/-- No mark of a date or a time follows digits of a numeral. -/
theorem digits?_ne {n v : Nat} {c : Char} {r : List Char} (hc : Foreign c) :
    digits? n (u ++ s) ≠ some (v, c :: r) := by
  intro h
  obtain ⟨-, text⟩ := digits?_numeral hs h
  cases left : u.drop n with
  | nil =>
    rw [left, List.nil_append] at text
    rcases hs c (by rw [← text]; rfl) with rfl | rfl | rfl <;> simp [Foreign] at hc
  | cons d ds =>
    rw [left, List.cons_append, List.cons.injEq] at text
    have digit : c.isDigit = true :=
      hu c (List.mem_of_mem_drop (i := n) (by rw [left, text.1]; exact List.mem_cons_self))
    simp [Foreign, digit] at hc

theorem datetime?_numeral : datetime? (u ++ s) = .ok none := by
  have noDate : date? (u ++ s) = .ok none := by
    unfold date?
    split
    · next h => exact absurd h (digits?_ne hu hs (by decide))
    · rfl
  have noTime : time? (u ++ s) = .ok none := by
    unfold time?
    split
    · next h => exact absurd h (digits?_ne hu hs (by decide))
    · rfl
  unfold datetime?
  rw [noDate]
  exact noTime

theorem moreDigits_numeral (taken : List Char) :
    moreDigits (·.isDigit) false taken (u ++ s) = .ok (taken.reverse ++ u, s) := by
  induction u generalizing taken with
  | nil =>
    cases s with
    | nil => simp [moreDigits]
    | cons c s =>
      have digit := hs.stopsAt (p := Char.isDigit) (by decide) c rfl
      have bar : c ≠ '_' := by
        rcases hs c rfl with rfl | rfl | rfl <;> decide
      simp [moreDigits, digit, bar]
  | cons d u ih =>
    have digit := hu d List.mem_cons_self
    simp [moreDigits, digit, ih fun c hc => hu c (List.mem_cons_of_mem _ hc)]

end Numbers

/-- Only the numeral of zero begins with zero. -/
theorem toDigits_head {n : Nat} (pos : n ≠ 0) :
    ∃ c cs, Nat.toDigits 10 n = c :: cs ∧ c ≠ '0' := by
  induction n using Nat.strongRecOn with
  | ind n ih =>
    rw [Nat.toDigits_eq_if (by decide)]
    split
    · next small =>
      have all : ∀ m < 10, m ≠ 0 → Nat.digitChar m ≠ '0' := by decide
      exact ⟨_, _, rfl, all n small pos⟩
    · next large =>
      obtain ⟨c, cs, digits, first⟩ := ih (n / 10) (by omega) (by omega)
      exact ⟨c, cs ++ [(n % 10).digitChar], by rw [digits, List.cons_append], first⟩

theorem foldl_digits {u : List Char} (hu : ∀ c ∈ u, c.isDigit = true) (v : Nat) :
    u.foldl (fun v d => v * 10 + (hexValue? d).getD 0) v = Nat.ofDigitChars 10 u v := by
  induction u generalizing v with
  | nil => simp
  | cons d u ih =>
    rw [List.foldl_cons, Nat.ofDigitChars_cons, ih fun d h => hu d (List.mem_cons_of_mem _ h)]
    simp [hexValue?, hu d List.mem_cons_self, Nat.mul_comm]

theorem natOfDigits_numeral (n : Nat) : natOfDigits 10 (toString n).toList = n := by
  rw [natOfDigits, foldl_digits fun c => isDigit_of_mem_toString, toList_toString,
    Nat.ofDigitChars_ten_toDigits]

theorem inRange_small {n : Nat} (small : n < Nat.pow 2 63) : inRange n = .ok (n : Int) := by
  have limit : Nat.pow 2 63 = 0x8000000000000000 := rfl
  rw [limit] at small
  have low : (-0x8000000000000000 : Int) ≤ n := by omega
  have high : (n : Int) < 0x8000000000000000 := by omega
  simp only [inRange, low, high, decide_true, Bool.and_true, if_true]

/-- What becomes of the digits of an integer. The check of its range stays open, because its bounds
are too large to be unfolded. -/
theorem checked_digits (check : Int → Except Fault Int) (ds cs : List Char) : (do
      match ← (.ok (some ((false, ds), cs)) :
        Except Fault (Option ((Bool × List Char) × List Char))) with
      | none => Except.error .invalidNumber
      | some ((negative, ds), cs) =>
        let n : Int := natOfDigits 10 ds
        return (← check (if negative then -n else n), cs)) =
    (check (natOfDigits 10 ds)).bind fun m => .ok (m, cs) := rfl

theorem readSign_digit {c : Char} (hc : c.isDigit = true) (cs : List Char) :
    readSign (c :: cs) = (false, c :: cs) := by
  unfold readSign
  split
  · next h => cases h; cases hc
  · next h => cases h; cases hc
  · rfl

theorem special?_numeral (n : Nat) (s : List Char) :
    special? ((toString n).toList ++ s) = none := by
  obtain ⟨c, cs, text, digit⟩ := toString_eq_cons n
  have noWord {d : Char} (word : List Char) (hd : d.isDigit = false) :
      startsWith (d :: word) (c :: (cs ++ s)) = none := by
    have ne : d ≠ c := by rintro rfl; simp [digit] at hd
    simp [startsWith, ne]
  rw [text, List.cons_append, special?, readSign_digit digit]
  simp [noWord]

section Integers

variable {n : Nat} {s : List Char} (hs : Closes s)
include hs

theorem decimal?_numeral :
    decimal? ((toString n).toList ++ s) = .ok (some ((false, (toString n).toList), s)) := by
  have digits := fun c (h : c ∈ (toString n).toList) => isDigit_of_mem_toString h
  by_cases zero : n = 0
  · subst zero
    rfl
  · obtain ⟨c, cs, text, first⟩ := toDigits_head zero
    rw [toList_toString, text] at digits ⊢
    have digit := digits c List.mem_cons_self
    have more := moreDigits_numeral (fun d h => digits d (List.mem_cons_of_mem _ h)) hs [c]
    unfold decimal?
    rw [List.cons_append, readSign_digit digit]
    split
    · next h => simp_all
    · next h =>
      obtain ⟨rfl, rfl, rfl⟩ : _ = false ∧ _ = c ∧ _ = cs ++ s := by simpa using h.symm
      simp [digit, more, pure, bind, Except.bind, Except.pure]
    · next h => simp at h

theorem float?_numeral : float? ((toString n).toList ++ s) = .ok none := by
  have next : s = [] ∨ ∃ c t, s = c :: t ∧ (c = ' ' ∨ c = '\t' ∨ c = '\n') := by
    cases s with
    | nil => exact .inl rfl
    | cons c t => exact .inr ⟨c, t, rfl, hs c rfl⟩
  have decimal := decimal?_numeral hs (n := n)
  unfold float?
  rcases next with rfl | ⟨c, t, rfl, rfl | rfl | rfl⟩
  all_goals simp only [decimal, bind, Except.bind]; rfl

/-- A numeral that begins with zero has no letter after it, so it is in no other base. -/
theorem numeral_ne_based {c : Char} {t : List Char} (hc : Foreign c) :
    (toString n).toList ++ s ≠ '0' :: c :: t := by
  intro same
  by_cases zero : n = 0
  · subst zero
    obtain rfl : s = c :: t := (List.cons.inj same).2
    rcases hs c rfl with rfl | rfl | rfl <;> simp [Foreign] at hc
  · obtain ⟨d, ds, text, first⟩ := toDigits_head zero
    rw [toList_toString, text] at same
    exact first (List.cons.inj same).1

theorem readInteger_numeral (small : n < Nat.pow 2 63) :
    readInteger ((toString n).toList ++ s) = .ok ((n : Int), s) := by
  have checked : readInteger ((toString n).toList ++ s) =
      (inRange (natOfDigits 10 (toString n).toList)).bind fun m => .ok (m, s) := by
    unfold readInteger
    split
    · next h => exact absurd h (numeral_ne_based hs (by decide))
    · next h => exact absurd h (numeral_ne_based hs (by decide))
    · next h => exact absurd h (numeral_ne_based hs (by decide))
    · rw [decimal?_numeral hs]
      exact checked_digits inRange _ _
  rw [checked, natOfDigits_numeral, inRange_small small]
  rfl

theorem readNumber_numeral (small : n < Nat.pow 2 63) :
    readNumber ((toString n).toList ++ s) = .ok (.integer n, s) := by
  have digits := fun c (h : c ∈ (toString n).toList) => isDigit_of_mem_toString h
  unfold readNumber
  simp only [datetime?_numeral digits hs, float?_numeral hs, special?_numeral,
    readInteger_numeral hs small, bind, Except.bind, pure, Except.pure]

end Integers

end Straggler.Toml
