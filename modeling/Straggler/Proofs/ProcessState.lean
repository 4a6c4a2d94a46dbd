import Mathlib.Data.List.TakeWhile
import Straggler.Posix.Stat
import Straggler.Process
import Straggler.Proofs.Delimited

/-!
# The state of a process

The name of a process is of its own choosing and may look like the end of the name and a state
after it. What tells is the first word after the last closing parenthesis (`HasState`), and as long
as nothing behind the state holds a parenthesis, the name has no say in it.
-/

namespace Straggler.Posix

open Unicode

set_option autoImplicit false

variable {line word rest blanks name : List Char} {state : Char}

/-! ## Words -/

theorem firstWord_word (hblanks : ∀ c ∈ blanks, isBlank c = true)
    (hword : ∀ c ∈ word, isBlank c = false) (some_char : word ≠ [])
    (stops : StopsAt (!isBlank ·) rest) : firstWord (blanks ++ (word ++ rest)) = word := by
  have visible : ∀ c ∈ word, (!isBlank c) = true := by
    intro c hc
    rw [hword c hc]
    rfl
  have begins : StopsAt isBlank (word ++ rest) := by
    obtain ⟨c, cs, rfl⟩ := List.exists_cons_of_ne_nil some_char
    exact stopsAt_cons (hword c List.mem_cons_self) (cs ++ rest)
  rw [firstWord, dropWhile_piece hblanks begins, takeWhile_piece visible stops]

/-- A text is the white space at its front, its first word and what follows that. -/
theorem firstWord_split (text : List Char) :
    ∃ blanks rest, text = blanks ++ (firstWord text ++ rest) ∧
      (∀ c ∈ blanks, isBlank c = true) ∧ (∀ c ∈ firstWord text, isBlank c = false) ∧
      StopsAt (!isBlank ·) rest := by
  refine ⟨text.takeWhile isBlank, (text.dropWhile isBlank).dropWhile (!isBlank ·), ?_,
    fun c => List.mem_takeWhile_imp, ?_, ?_⟩
  · rw [firstWord, List.takeWhile_append_dropWhile, List.takeWhile_append_dropWhile]
  · intro c hc
    simpa using List.mem_takeWhile_imp hc
  · intro c hc
    have first := List.head?_dropWhile_not (!isBlank ·) (text.dropWhile isBlank)
    rw [Option.mem_def.mp hc] at first
    exact first

theorem firstWord_blank (hblanks : ∀ c ∈ blanks, isBlank c = true) : firstWord blanks = [] := by
  rw [firstWord, List.dropWhile_eq_nil_iff.mpr hblanks]
  rfl

/-! ## The last parenthesis -/

theorem afterLastParen_of_not_mem (lacks : ')' ∉ line) : afterLastParen line = none := by
  have lacks : ¬ line.contains ')' = true := by rwa [List.contains_iff_mem]
  rw [afterLastParen, if_neg lacks]

theorem afterLastParen_append (before : List Char) (lacks : ')' ∉ rest) :
    afterLastParen (before ++ ')' :: rest) = some rest := by
  have holds : (before ++ ')' :: rest).contains ')' = true := by
    rw [List.contains_iff_mem]
    exact List.mem_append_right _ List.mem_cons_self
  have turned : (before ++ ')' :: rest).reverse = rest.reverse ++ ')' :: before.reverse := by
    simp
  have other : ∀ c ∈ rest.reverse, (c != ')') = true := by
    intro c hc
    rw [bne_iff_ne]
    rintro rfl
    exact lacks (List.mem_reverse.mp hc)
  rw [afterLastParen, if_pos holds, turned, takeWhile_piece other (stopsAt_cons rfl _),
    List.reverse_reverse]

theorem afterLastParen_eq_some_iff :
    afterLastParen line = some rest ↔ ∃ before, line = before ++ ')' :: rest ∧ ')' ∉ rest := by
  constructor
  · intro found
    by_cases holds : ')' ∈ line
    · -- The last one of a line is the first one from its end.
      have turn : ')' ∈ line.reverse := List.mem_reverse.mpr holds
      obtain ⟨last, before, turned, first⟩ := List.eq_append_cons_of_mem turn
      have whole : line = before.reverse ++ ')' :: last.reverse := by
        rw [← List.reverse_reverse line, turned]
        simp
      have lacks : ')' ∉ last.reverse := fun hc => first (List.mem_reverse.mp hc)
      rw [whole, afterLastParen_append _ lacks] at found
      cases found
      exact ⟨before.reverse, whole, lacks⟩
    · rw [afterLastParen_of_not_mem holds] at found
      cases found
  · rintro ⟨before, rfl, lacks⟩
    exact afterLastParen_append before lacks

/-! ## The state -/

/-- The line goes on with this word after its last closing parenthesis, white space apart. -/
def HasState (line word : List Char) : Prop :=
  word ≠ [] ∧ (∀ c ∈ word, isBlank c = false) ∧ ∃ before blanks rest,
    line = before ++ ')' :: (blanks ++ (word ++ rest)) ∧ ')' ∉ blanks ++ (word ++ rest) ∧
      (∀ c ∈ blanks, isBlank c = true) ∧ StopsAt (!isBlank ·) rest

theorem hasState_iff : HasState line word ↔
    word ≠ [] ∧ ∃ rest, afterLastParen line = some rest ∧ firstWord rest = word := by
  constructor
  · rintro ⟨some_char, hword, before, blanks, rest, rfl, lacks, hblanks, stops⟩
    exact ⟨some_char, _, afterLastParen_append before lacks,
      firstWord_word hblanks hword some_char stops⟩
  · rintro ⟨some_char, last, found, rfl⟩
    obtain ⟨before, rfl, lacks⟩ := afterLastParen_eq_some_iff.mp found
    obtain ⟨blanks, rest, split, hblanks, hword, stops⟩ := firstWord_split last
    refine ⟨some_char, hword, before, blanks, rest, congrArg (before ++ ')' :: ·) split, ?_,
      hblanks, stops⟩
    rwa [← split]

theorem HasState.unique {other : List Char} (h : HasState line word) (h' : HasState line other) :
    word = other := by
  obtain ⟨-, rest, found, rfl⟩ := hasState_iff.mp h
  obtain ⟨-, rest', found', rfl⟩ := hasState_iff.mp h'
  cases found.symm.trans found'
  rfl

theorem isZombie_iff : isZombie line = true ↔ HasState line ['Z'] ∨ HasState line ['X'] := by
  rw [isZombie, hasState_iff, hasState_iff]
  cases afterLastParen line <;> simp

def statusLine (pid : Pid) (name : List Char) (state : Char) (rest : List Char) : List Char :=
  (toString pid).toList ++ ' ' :: '(' :: name ++ ')' :: ' ' :: state :: ' ' :: rest

/-- A status line has the state that it is given, whatever name it is given. -/
theorem hasState_statusLine (pid : Pid) (name : List Char) (visible : isBlank state = false)
    (other : state ≠ ')') (lacks : ')' ∉ rest) :
    HasState (statusLine pid name state rest) [state] := by
  refine ⟨List.cons_ne_nil _ _, List.forall_mem_singleton.mpr visible,
    (toString pid).toList ++ ' ' :: '(' :: name, [' '], ' ' :: rest, rfl, ?_,
    List.forall_mem_singleton.mpr (by decide), stopsAt_cons (by decide) rest⟩
  simp [other.symm, lacks]

/-- Whether a process has exited is told by the state on its status line alone, and the name, in
which parentheses and states may stand, has no part in it. Where no state can be found the process
has not exited. -/
theorem exit_told_by_state_alone :
    (∀ line, isZombie line = true ↔ HasState line ['Z'] ∨ HasState line ['X']) ∧
      (∀ (pid : Pid) (name : List Char) (state : Char) (rest : List Char), isBlank state = false →
        state ≠ ')' → ')' ∉ rest →
          (isZombie (statusLine pid name state rest) = true ↔ state = 'Z' ∨ state = 'X')) ∧
      (∀ text : List Char, ')' ∉ text → isZombie text = false) ∧
      ∀ before blanks : List Char, (∀ c ∈ blanks, isBlank c = true) →
        isZombie (before ++ ')' :: blanks) = false := by
  refine ⟨fun line => isZombie_iff, ?told, ?bare, ?blank⟩
  case told =>
    intro pid name state rest visible other lacks
    have stated := hasState_statusLine pid name visible other lacks
    rw [isZombie_iff]
    constructor
    · rintro (zombie | dead)
      · exact .inl (List.singleton_inj.mp (stated.unique zombie))
      · exact .inr (List.singleton_inj.mp (stated.unique dead))
    · rintro (rfl | rfl)
      · exact .inl stated
      · exact .inr stated
  case bare =>
    intro text lacks
    rw [isZombie, afterLastParen_of_not_mem lacks]
  case blank =>
    intro before blanks hblanks
    have lacks : ')' ∉ blanks := by
      intro hc
      exact absurd (hblanks _ hc) (by decide)
    rw [isZombie, afterLastParen_append before lacks]
    simp [firstWord_blank hblanks]

/-- A name that ends like a line of its own, of a process that has exited. -/
theorem exit_told_by_state_alone_imitated :
    isBlank 'S' = false ∧ 'S' ≠ ')' ∧ ')' ∉ "1 40 40".toList ∧
      (isZombie (statusLine 40 "worker) Z 1 (x".toList 'S' "1 40 40".toList) = true ↔
        'S' = 'Z' ∨ 'S' = 'X') := by
  have visible : isBlank 'S' = false := by decide
  have other : 'S' ≠ ')' := by decide
  have lacks : ')' ∉ "1 40 40".toList := by decide
  exact ⟨visible, other, lacks, exit_told_by_state_alone.2.1 40 _ 'S' _ visible other lacks⟩

end Straggler.Posix
