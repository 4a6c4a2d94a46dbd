import Mathlib.Data.List.Basic

/-!
# Delimited pieces

A list begins with a piece of items of one sort and goes on with an item of another: then the piece
can be told from the list. In a text numerals end at the first character that is no digit, and lines
at their ends.
-/

namespace Straggler

set_option autoImplicit false

/-- The list does not begin with an item of this sort. -/
def StopsAt {α : Type} (p : α → Bool) (as : List α) : Prop :=
  ∀ a ∈ as.head?, p a = false

section Pieces

variable {α : Type} {p : α → Bool} {u v s t : List α}

theorem stopsAt_nil (p : α → Bool) : StopsAt p [] := nofun

theorem stopsAt_cons {a : α} (h : p a = false) (as : List α) : StopsAt p (a :: as) := by
  intro b hb
  cases hb
  exact h

theorem stopsAt_of_forall (h : ∀ a ∈ s, p a = false) : StopsAt p s :=
  fun a ha => h a (List.mem_of_mem_head? ha)

theorem takeWhile_piece (hu : ∀ a ∈ u, p a = true) (hs : StopsAt p s) :
    (u ++ s).takeWhile p = u := by
  rw [List.takeWhile_append_of_pos hu]
  cases s with
  | nil => simp
  | cons a s => simp [hs a rfl]

theorem dropWhile_piece (hu : ∀ a ∈ u, p a = true) (hs : StopsAt p s) :
    (u ++ s).dropWhile p = s := by
  rw [List.dropWhile_append_of_pos hu]
  cases s with
  | nil => rfl
  | cons a s => simp [hs a rfl]

/-- There is only one place at which such a piece can end. -/
theorem piece_unique (hu : ∀ a ∈ u, p a = true) (hv : ∀ a ∈ v, p a = true) (hs : StopsAt p s)
    (ht : StopsAt p t) (same : u ++ s = v ++ t) : u = v ∧ s = t := by
  have first : u = v := by
    rw [← takeWhile_piece hu hs, same, takeWhile_piece hv ht]
  subst first
  exact ⟨rfl, List.append_cancel_left same⟩

/-- A mark that the piece does not hold ends it. -/
theorem marked_unique [DecidableEq α] {mark : α} (hu : mark ∉ u) (hv : mark ∉ v)
    (same : u ++ mark :: s = v ++ mark :: t) : u = v ∧ s = t := by
  have other {w : List α} (h : mark ∉ w) : ∀ a ∈ w, decide (a ≠ mark) = true := by
    intro a ha
    simp only [decide_eq_true_eq, ne_eq]
    rintro rfl
    exact h ha
  have stops (w : List α) : StopsAt (fun a => decide (a ≠ mark)) (mark :: w) :=
    stopsAt_cons (by simp) w
  obtain ⟨piece, rest⟩ := piece_unique (other hu) (other hv) (stops s) (stops t) same
  exact ⟨piece, (List.cons.inj rest).2⟩

end Pieces

/-! ## Numerals -/

theorem toList_toString (n : Nat) : (toString n).toList = Nat.toDigits 10 n := by
  rw [Nat.toString_eq_ofList_toDigits, String.toList_ofList]

theorem isDigit_of_mem_toString {n : Nat} {c : Char} (h : c ∈ (toString n).toList) :
    c.isDigit = true := by
  rw [toList_toString] at h
  exact Nat.isDigit_of_mem_toDigits (by decide) (by decide) h

/-- A numeral begins with a digit. -/
theorem toString_eq_cons (n : Nat) :
    ∃ c cs, (toString n).toList = c :: cs ∧ c.isDigit = true := by
  have ne : (toString n).toList ≠ [] := by
    rw [toList_toString]
    exact Nat.toDigits_ne_nil
  obtain ⟨c, cs, h⟩ := List.exists_cons_of_ne_nil ne
  exact ⟨c, cs, h, isDigit_of_mem_toString (by rw [h]; exact List.mem_cons_self)⟩

theorem numeral_unique {m n : Nat} {s t : List Char} (hs : StopsAt Char.isDigit s)
    (ht : StopsAt Char.isDigit t) (same : (toString m).toList ++ s = (toString n).toList ++ t) :
    m = n ∧ s = t := by
  obtain ⟨digits, rest⟩ := piece_unique (fun _ => isDigit_of_mem_toString)
    (fun _ => isDigit_of_mem_toString) hs ht same
  rw [toList_toString, toList_toString] at digits
  have value := congrArg (Nat.ofDigitChars 10 · 0) digits
  simp only [Nat.ofDigitChars_ten_toDigits] at value
  exact ⟨value, rest⟩

/-! ## Lines -/

def unlines (lines : List (List Char)) : List Char :=
  lines.flatMap (· ++ ['\n'])

theorem unlines_append (ls ms : List (List Char)) :
    unlines (ls ++ ms) = unlines ls ++ unlines ms := by
  simp [unlines]

theorem unlines_cons (l : List Char) (ls : List (List Char)) :
    unlines (l :: ls) = unlines [l] ++ unlines ls :=
  unlines_append [l] ls

theorem unlines_map {α : Type} (f : α → List Char) (as : List α) :
    unlines (as.map f) = as.flatMap fun a => unlines [f a] := by
  simp [unlines, List.flatMap_map]

/-- Lines that do not hold the end of a line can be told from the text of them all. -/
theorem unlines_unique {ls ms : List (List Char)} (hl : ∀ l ∈ ls, '\n' ∉ l)
    (hm : ∀ m ∈ ms, '\n' ∉ m) (same : unlines ls = unlines ms) : ls = ms := by
  induction ls generalizing ms with
  | nil =>
    cases ms with
    | nil => rfl
    | cons m ms => simp [unlines] at same
  | cons l ls ih =>
    cases ms with
    | nil => simp [unlines] at same
    | cons m ms =>
      have split : l ++ '\n' :: unlines ls = m ++ '\n' :: unlines ms := by
        simpa [unlines] using same
      obtain ⟨first, others⟩ := List.forall_mem_cons.mp hl
      obtain ⟨first', others'⟩ := List.forall_mem_cons.mp hm
      obtain ⟨rfl, rest⟩ := marked_unique first first' split
      rw [ih others others' rest]

end Straggler
