import Mathlib
import Straggler.Proofs.Delimited
import Straggler.Proofs.Validation

/-!
# Names of signals

A name is read without the white space around it and without regard to the case of its seven-bit
letters. What is left has to be the name of a signal, whole or without its first three letters. No
name begins with these letters twice, so nothing that is read stands for two signals, and nothing
else is accepted: no doubled or bare first letters, no white space within, no other alphabet.
-/

namespace Straggler

set_option autoImplicit false

/-! ## White space at the ends -/

namespace Unicode

/-- The piece begins and ends with no white space, and there is nothing else around it. -/
def Trimmed (text piece : List Char) : Prop :=
  ∃ before after, text = before ++ piece ++ after ∧ (∀ c ∈ before, isBlank c = true) ∧
    (∀ c ∈ after, isBlank c = true) ∧ StopsAt isBlank piece ∧ StopsAt isBlank piece.reverse

variable {text piece : List Char}

theorem stopsAt_dropWhile (cs : List Char) : StopsAt isBlank (cs.dropWhile isBlank) := by
  intro c hc
  have first := List.head?_dropWhile_not isBlank cs
  rw [Option.mem_def.mp hc] at first
  exact first

theorem trimmed_trim (text : List Char) : Trimmed text (trim text) := by
  have front := List.takeWhile_append_dropWhile (p := isBlank) (l := text)
  have back : (text.dropWhile isBlank).rdropWhile isBlank ++ _ = _ :=
    List.rdropWhile_append_rtakeWhile
  refine ⟨text.takeWhile isBlank, (text.dropWhile isBlank).rtakeWhile isBlank, ?_,
    fun c => List.mem_takeWhile_imp, fun c => List.mem_rtakeWhile_imp, ?_, ?_⟩
  · rw [List.append_assoc]
    exact front.symm.trans (congrArg _ back.symm)
  · -- Whatever is dropped at the end, the piece begins as it did.
    intro c hc
    have kept : trim text <+: text.dropWhile isBlank := List.rdropWhile_prefix isBlank _
    obtain ⟨rest, whole⟩ := kept
    refine stopsAt_dropWhile text c ?_
    rw [← whole]
    exact List.mem_head?_append_of_mem_head? hc
  · have ends := stopsAt_dropWhile (text.dropWhile isBlank).reverse
    rwa [trim, trimEnd, List.reverse_reverse]

theorem Trimmed.eq (h : Trimmed text piece) : piece = trim text := by
  obtain ⟨before, after, rfl, hbefore, hafter, begins, ends⟩ := h
  cases piece with
  | nil =>
    -- The whole text is white space, and the first cut leaves nothing.
    have blank : ∀ c ∈ before ++ [] ++ after, isBlank c = true := by
      intro c hc
      rw [List.append_nil] at hc
      rcases List.mem_append.mp hc with hc | hc
      · exact hbefore c hc
      · exact hafter c hc
    rw [trim, List.dropWhile_eq_nil_iff.mpr blank]
    rfl
  | cons c cs =>
    have front : StopsAt isBlank (c :: cs ++ after) := stopsAt_cons (begins c rfl) (cs ++ after)
    have blank : ∀ c ∈ after.reverse, isBlank c = true :=
      fun c hc => hafter c (List.mem_reverse.mp hc)
    rw [trim, List.append_assoc, dropWhile_piece hbefore front, trimEnd, List.reverse_append,
      dropWhile_piece blank ends, List.reverse_reverse]

theorem Trimmed.pad (h : Trimmed text piece) {before after : List Char}
    (hbefore : ∀ c ∈ before, isBlank c = true) (hafter : ∀ c ∈ after, isBlank c = true) :
    Trimmed (before ++ text ++ after) piece := by
  obtain ⟨before', after', rfl, hbefore', hafter', begins, ends⟩ := h
  refine ⟨before ++ before', after' ++ after, by simp, ?_, ?_, begins, ends⟩
  · exact List.forall_mem_append.mpr ⟨hbefore, hbefore'⟩
  · exact List.forall_mem_append.mpr ⟨hafter', hafter⟩

theorem trim_pad (text : List Char) {before after : List Char}
    (hbefore : ∀ c ∈ before, isBlank c = true) (hafter : ∀ c ∈ after, isBlank c = true) :
    trim (before ++ text ++ after) = trim text :=
  ((trimmed_trim text).pad hbefore hafter).eq.symm

/-- The visible characters of seven bits, letters among them. -/
theorem isBlank_visible {c : Char} (lo : 0x21 ≤ c.toNat) (hi : c.toNat ≤ 0x7E) :
    isBlank c = false := by
  simp only [isBlank, whiteSpace, CharSet.has, CharSet.inRanges, Bool.and_eq_false_iff,
    Bool.or_eq_false_iff, decide_eq_false_iff_not]
  omega

theorem isLower_iff_toNat {c : Char} : c.isLower = true ↔ 97 ≤ c.toNat ∧ c.toNat ≤ 122 := by
  simp [Char.isLower, UInt32.le_iff_toNat_le]

theorem toNat_toUpper {c : Char} (lower : c.isLower = true) : c.toUpper.toNat = c.toNat - 32 := by
  have bounds := isLower_iff_toNat.mp lower
  rw [Char.toUpper_eq_of_isLower lower, Char.toNat_ofNat, if_pos (.inl (by omega))]

theorem isBlank_toUpper (c : Char) : isBlank c.toUpper = isBlank c := by
  by_cases lower : c.isLower = true
  · have bounds := isLower_iff_toNat.mp lower
    have up := toNat_toUpper lower
    rw [isBlank_visible (c := c) (by omega) (by omega), isBlank_visible (by omega) (by omega)]
  · rw [Char.toUpper_eq_of_not_isLower lower]

theorem trim_map_toUpper (text : List Char) :
    trim (text.map Char.toUpper) = (trim text).map Char.toUpper := by
  have same : isBlank ∘ Char.toUpper = isBlank := funext isBlank_toUpper
  rw [trim, trim, trimEnd, trimEnd, List.dropWhile_map, same, ← List.map_reverse,
    List.dropWhile_map, same, List.map_reverse]

end Unicode

/-! ## Names -/

namespace Signal

/-- The word is the name of the signal, whole or without its first three letters. -/
def Named (s : Signal) (word : List Char) : Prop :=
  word = s.name.toList ∨ "SIG".toList ++ word = s.name.toList

/-- Words that are close to names and yet none. -/
inductive Flawed : List Char → Prop
  | doubled (rest : List Char) : Flawed ("SIGSIG".toList ++ rest)
  | bare : Flawed "SIG".toList
  | blank {word : List Char} {c : Char} (hc : c ∈ word) (h : Unicode.isBlank c = true) : Flawed word
  | foreign {word : List Char} {c : Char} (hc : c ∈ word) (h : 0x7F < c.toNat) : Flawed word

def completed (word : List Char) : List Char :=
  if "SIG".toList.isPrefixOf word then word else "SIG".toList ++ word

variable {s t : Signal} {word : List Char} {written : String}

theorem toList_name (s : Signal) : s.name.toList = "SIG".toList ++ s.shortName.toList :=
  String.toList_append

theorem named_iff : s.Named word ↔ word = s.name.toList ∨ word = s.shortName.toList := by
  rw [Named, toList_name, List.append_cancel_left_eq]

/-- The short names are told from the whole ones by how they begin. -/
theorem not_prefix_shortName (s : Signal) : ¬ "SIG".toList <+: s.shortName.toList := by
  cases s <;> decide

theorem shortName_ne_nil (s : Signal) : s.shortName.toList ≠ [] := by
  cases s <;> decide

/-- Names hold digits and letters in upper case, which are visible and come before the others. -/
theorem upper_name (s : Signal) : ∀ c ∈ s.name.toList, 0x21 ≤ c.toNat ∧ c.toNat ≤ 0x5A := by
  have all : (s.name.toList.all fun c => 0x21 ≤ c.toNat && c.toNat ≤ 0x5A) = true := by
    cases s <;> rfl
  simpa using all

theorem ofName?_name (s : Signal) : ofName? s.name = some s := by
  cases s <;> rfl

theorem ofName?_eq_some_iff {name : String} : ofName? name = some s ↔ name = s.name := by
  constructor
  · intro found
    have named := List.find?_some found
    exact (beq_iff_eq.mp named).symm
  · rintro rfl
    exact ofName?_name s

theorem name_injective (same : s.name = t.name) : s = t := by
  have found := ofName?_name s
  rw [same, ofName?_name t] at found
  exact (Option.some.inj found).symm

theorem completed_eq_name_iff : completed word = s.name.toList ↔ s.Named word := by
  rw [completed]
  split
  · next begins =>
    -- A word that begins so is whole, since no short name does.
    have short : word ≠ s.shortName.toList := by
      rintro rfl
      exact not_prefix_shortName s (List.isPrefixOf_iff_prefix.mp begins)
    rw [named_iff, or_iff_left short]
  · next begins =>
    have long : word ≠ s.name.toList := by
      rintro rfl
      rw [toList_name] at begins
      exact begins (List.isPrefixOf_iff_prefix.mpr (List.prefix_append _ _))
    rw [Named, or_iff_right long]

theorem Named.unique (hs : s.Named word) (ht : t.Named word) : s = t := by
  have same := (completed_eq_name_iff.mpr hs).symm.trans (completed_eq_name_iff.mpr ht)
  exact name_injective (String.toList_inj.mp same)

theorem Named.upper (h : s.Named word) : ∀ c ∈ word, 0x21 ≤ c.toNat ∧ c.toNat ≤ 0x5A := by
  intro c hc
  apply upper_name s
  rcases h with rfl | whole
  · exact hc
  · rw [← whole]
    exact List.mem_append_right _ hc

theorem Named.notBlank (h : s.Named word) : ∀ c ∈ word, Unicode.isBlank c = false := by
  intro c hc
  obtain ⟨lo, hi⟩ := h.upper c hc
  exact Unicode.isBlank_visible lo (by omega)

theorem Named.trimmed (h : s.Named word) : Unicode.Trimmed word word := by
  refine ⟨[], [], by simp, nofun, nofun, stopsAt_of_forall h.notBlank, ?_⟩
  exact stopsAt_of_forall fun c hc => h.notBlank c (List.mem_reverse.mp hc)

theorem Named.map_toUpper (h : s.Named word) : word.map Char.toUpper = word := by
  have same : ∀ c ∈ word, c.toUpper = c := by
    intro c hc
    have bounds := h.upper c hc
    apply Char.toUpper_eq_of_not_isLower
    rw [Unicode.isLower_iff_toNat]
    omega
  exact (List.map_congr_left same).trans (List.map_id' word)

theorem Flawed.not_named (h : Flawed word) (s : Signal) : ¬ s.Named word := by
  intro named
  cases h with
  | doubled rest =>
    have twice : "SIGSIG".toList ++ rest = "SIG".toList ++ ("SIG".toList ++ rest) := rfl
    rcases named_iff.mp named with whole | short
    · rw [twice, toList_name, List.append_cancel_left_eq] at whole
      exact not_prefix_shortName s ⟨rest, whole⟩
    · exact not_prefix_shortName s ⟨"SIG".toList ++ rest, short⟩
  | bare =>
    rcases named_iff.mp named with whole | short
    · rw [toList_name] at whole
      exact shortName_ne_nil s (List.append_right_eq_self.mp whole.symm)
    · exact not_prefix_shortName s ⟨[], short⟩
  | blank hc h =>
    rw [named.notBlank _ hc] at h
    cases h
  | foreign hc h =>
    have hi := (named.upper _ hc).2
    omega

/-! ## Reading -/

theorem parse?_eq_some_iff :
    parse? written = some s ↔ s.Named ((Unicode.trim written.toList).map Char.toUpper) := by
  have full : fullName written.toList =
      completed ((Unicode.trim written.toList).map Char.toUpper) := rfl
  rw [parse?, ofName?_eq_some_iff, ← String.toList_inj, String.toList_ofList, full,
    completed_eq_name_iff]

end Signal

open Signal

variable {written other : String} {word : List Char}

theorem signalNamed_eq_ok_iff {s : Signal} :
    signalNamed written = .ok s ↔ s.Named ((Unicode.trim written.toList).map Char.toUpper) := by
  rw [← parse?_eq_some_iff, signalNamed]
  split
  · next read => simp [read]
  · next unknown => simp [unknown]

theorem signalNamed_refused_iff :
    signalNamed written = .error (.invalidSignal written) ↔
      ∀ s : Signal, ¬ s.Named ((Unicode.trim written.toList).map Char.toUpper) := by
  simp only [signalNamed_eq_error_iff, ne_eq, signalNamed_eq_ok_iff, and_true]

theorem signalNamed_of_named {s : Signal} (h : s.Named word) :
    signalNamed (.ofList word) = .ok s := by
  rw [signalNamed_eq_ok_iff, String.toList_ofList, ← h.trimmed.eq, h.map_toUpper]
  exact h

def ReadAlike (written other : String) : Prop :=
  ∀ s, signalNamed written = .ok s ↔ signalNamed other = .ok s

theorem readAlike_pad {before after : List Char}
    (hbefore : ∀ c ∈ before, Unicode.isBlank c = true)
    (hafter : ∀ c ∈ after, Unicode.isBlank c = true) :
    ReadAlike (.ofList (before ++ written.toList ++ after)) written := by
  intro s
  rw [signalNamed_eq_ok_iff, signalNamed_eq_ok_iff, String.toList_ofList,
    Unicode.trim_pad _ hbefore hafter]

theorem readAlike_case (same : written.toList.map Char.toUpper = other.toList.map Char.toUpper) :
    ReadAlike written other := by
  intro s
  rw [signalNamed_eq_ok_iff, signalNamed_eq_ok_iff, ← Unicode.trim_map_toUpper, same,
    Unicode.trim_map_toUpper]

/-- What becomes of a written name, of which this word is left without the white space around it. -/
structure ReadExactly (written : String) (word : List Char) : Prop where
  trimmed : Unicode.Trimmed written.toList word
  accepted : ∀ s : Signal, signalNamed written = .ok s ↔ s.Named (word.map Char.toUpper)
  unique : ∀ s t : Signal, s.Named (word.map Char.toUpper) → t.Named (word.map Char.toUpper) →
    s = t
  refused : signalNamed written = .error (.invalidSignal written) ↔
    ∀ s : Signal, ¬ s.Named (word.map Char.toUpper)
  flawed : Flawed (word.map Char.toUpper) → signalNamed written = .error (.invalidSignal written)
  padded : ∀ before after : List Char, (∀ c ∈ before, Unicode.isBlank c = true) →
    (∀ c ∈ after, Unicode.isBlank c = true) →
    ReadAlike (.ofList (before ++ written.toList ++ after)) written
  recased : ∀ other : String, other.toList.map Char.toUpper = written.toList.map Char.toUpper →
    ReadAlike other written

/-- A written name is read as the one signal that is named by what is left of it, or it is refused
as it is written. Each signal can be named with its first three letters and without them. -/
theorem signal_named_exactly :
    (∀ written : String, ∃ word, ReadExactly written word) ∧
      ∀ s : Signal, signalNamed s.name = .ok s ∧ signalNamed s.shortName = .ok s := by
  constructor
  · intro written
    refine ⟨Unicode.trim written.toList, ?_⟩
    exact {
      trimmed := Unicode.trimmed_trim _
      accepted := fun s => signalNamed_eq_ok_iff
      unique := fun s t => Named.unique
      refused := signalNamed_refused_iff
      flawed := fun h => signalNamed_refused_iff.mpr h.not_named
      padded := fun _ _ => readAlike_pad
      recased := fun _ => readAlike_case }
  · intro s
    have whole := signalNamed_of_named (s := s) (.inl rfl)
    have short := signalNamed_of_named (named_iff.mpr (.inr rfl) : s.Named s.shortName.toList)
    rw [String.ofList_toList] at whole short
    exact ⟨whole, short⟩

example : signalNamed " Kill " = .ok .kill := rfl

end Straggler
