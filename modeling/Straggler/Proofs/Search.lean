import Straggler.Proofs.Matching

/-!
# What a search finds

A search that moves marks over a text finds a match exactly when the pattern matches some part of
the text. A mark stands for a match that is under way: what the tree may still take from there
(`Resumes`) is what one step of the marks preserves. Moving all marks over a character shortens
what is left by that character, and starting anew at each place adds the matches that begin there.

This does not hold of a repetition whose lower bound is above the upper one: it matches nothing,
but its tree still asks for the lower number of rounds.
-/

namespace Straggler.Pattern

open Unicode

set_option autoImplicit false

/-- The lower bound of each repetition is not above the upper one. -/
def Regex.bounded : Regex → Bool
  | empty => true
  | set _ => true
  | look _ => true
  | seq a b => a.bounded && b.bounded
  | alt a b => a.bounded && b.bounded
  | times r min max => r.bounded && max.all (min ≤ ·)

namespace Marked

/-! ## What a marked tree may still take -/

def erase : Marked → Regex
  | empty => .empty
  | set s _ => .set s
  | look l => .look l
  | seq a b => .seq a.erase b.erase
  | alt a b => .alt a.erase b.erase
  | star r => .times r.erase 0 none

/-- From one of its marks the tree goes on to take the middle part of a text and is done. -/
def Resumes : Marked → List Char → List Char → List Char → Prop
  | empty, _, _, _ => False
  | set _ mark, _, mid, _ => mark = true ∧ mid = []
  | look _, _, _, _ => False
  | seq a b, pre, mid, post =>
    (∃ u v, mid = u ++ v ∧ a.Resumes pre u (v ++ post) ∧ b.erase.Matches (pre ++ u) v post) ∨
      b.Resumes pre mid post
  | alt a b, pre, mid, post => a.Resumes pre mid post ∨ b.Resumes pre mid post
  | star r, pre, mid, post =>
    ∃ u v, mid = u ++ v ∧ r.Resumes pre u (v ++ post) ∧
      (star r).erase.Matches (pre ++ u) v post

/-- From a mark, or from here if a match may begin here. -/
def Continues (m : Marked) (start : Bool) (pre mid post : List Char) : Prop :=
  m.Resumes pre mid post ∨ start = true ∧ m.erase.Matches pre mid post

variable {m a b : Marked} {start : Bool} {pre mid post : List Char} {c : Char}

/-- In a sequence the second part begins where the first one is done. -/
theorem continues_seq :
    (seq a b).Continues start pre mid post ↔
      (∃ u v, mid = u ++ v ∧ a.Continues start pre u (v ++ post) ∧
        b.erase.Matches (pre ++ u) v post) ∨ b.Resumes pre mid post := by
  simp only [Continues, Resumes, erase, Regex.matches_seq]
  constructor
  · rintro ((⟨u, v, rfl, ha, hb⟩ | hb) | ⟨hs, u, v, rfl, ha, hb⟩)
    · exact .inl ⟨u, v, rfl, .inl ha, hb⟩
    · exact .inr hb
    · exact .inl ⟨u, v, rfl, .inr ⟨hs, ha⟩, hb⟩
  · rintro (⟨u, v, rfl, ha | ⟨hs, ha⟩, hb⟩ | hb)
    · exact .inl (.inl ⟨u, v, rfl, ha, hb⟩)
    · exact .inr ⟨hs, u, v, rfl, ha, hb⟩
    · exact .inl (.inr hb)

theorem continues_alt :
    (alt a b).Continues start pre mid post ↔
      a.Continues start pre mid post ∨ b.Continues start pre mid post := by
  simp only [Continues, Resumes, erase, Regex.matches_alt]
  tauto

/-- A match is done here exactly if nothing more is to be taken. -/
theorem ends_iff (m : Marked) (start : Bool) (pre post : List Char) :
    m.ends (Regex.placeAt pre post) start = true ↔ m.Continues start pre [] post := by
  induction m generalizing start with
  | empty => simp [ends, Continues, Resumes, erase, Regex.matches_empty]
  | set s mark => simp [ends, Continues, Resumes, erase, Regex.matches_set]
  | look l => simp [ends, Continues, Resumes, erase, Regex.matches_look]
  | seq a b iha ihb =>
    rw [ends, ihb, continues_seq, Continues, iha]
    constructor
    · rintro (hb | ⟨ha, hb⟩)
      · exact .inr hb
      · exact .inl ⟨[], [], rfl, ha, by simpa using hb⟩
    · rintro (⟨u, v, huv, ha, hb⟩ | hb)
      · obtain ⟨rfl, rfl⟩ := List.append_eq_nil_iff.mp huv.symm
        exact .inr ⟨ha, by simpa using hb⟩
      · exact .inl hb
  | alt a b iha ihb => rw [ends, Bool.or_eq_true, iha, ihb, continues_alt]
  | star r ih =>
    rw [ends, Bool.or_eq_true, ih]
    constructor
    · rintro (hs | hr | ⟨hs, _⟩)
      · exact .inr ⟨hs, .stop⟩
      · exact .inl ⟨[], [], rfl, hr, .stop⟩
      · cases hs
    · rintro (⟨u, v, huv, hr, _⟩ | ⟨hs, _⟩)
      · obtain ⟨rfl, rfl⟩ := List.append_eq_nil_iff.mp huv.symm
        exact .inr (.inl hr)
      · exact .inl hs

/-! ## One step of the marks -/

/-- The place before a character is the same whatever follows that character. -/
theorem ends_before_iff (m : Marked) (start : Bool) (pre : List Char) (c : Char)
    (rest : List Char) :
    m.ends ⟨pre.getLast?, some c⟩ start = true ↔ m.Continues start pre [] (c :: rest) :=
  ends_iff m start pre (c :: rest)

/-- Either the first part takes the next character, or it is done before it. -/
theorem continues_seq_cons :
    (seq a b).Continues start pre (c :: mid) post ↔
      (∃ u v, mid = u ++ v ∧ a.Continues start pre (c :: u) (v ++ post) ∧
        b.erase.Matches (pre ++ c :: u) v post) ∨
      b.Continues (a.ends ⟨pre.getLast?, some c⟩ start) pre (c :: mid) post := by
  rw [continues_seq, Continues, ends_before_iff a start pre c (mid ++ post)]
  constructor
  · rintro (⟨u, v, huv, ha, hb⟩ | hb)
    · rcases List.cons_eq_append_iff.mp huv with ⟨rfl, rfl⟩ | ⟨u, rfl, rfl⟩
      · exact .inr (.inr ⟨ha, by simpa using hb⟩)
      · exact .inl ⟨u, v, rfl, ha, hb⟩
    · exact .inr (.inl hb)
  · rintro (⟨u, v, rfl, ha, hb⟩ | hb | ⟨ha, hb⟩)
    · exact .inl ⟨c :: u, v, rfl, ha, hb⟩
    · exact .inr hb
    · exact .inl ⟨[], c :: mid, rfl, ha, by simpa using hb⟩

/-- A round that takes the next character is under way, begins with the whole repetition, or
begins where another round is done. -/
theorem continues_star_cons :
    (star m).Continues start pre (c :: mid) post ↔
      ∃ u v, mid = u ++ v ∧
        m.Continues (start || m.ends ⟨pre.getLast?, some c⟩ false) pre (c :: u) (v ++ post) ∧
        (star m).erase.Matches (pre ++ c :: u) v post := by
  constructor
  · rintro (⟨u, v, huv, hr, hs⟩ | ⟨hs, hr⟩)
    · rcases List.cons_eq_append_iff.mp huv with ⟨rfl, rfl⟩ | ⟨u, rfl, rfl⟩
      · rw [List.append_nil] at hs
        obtain ⟨u, v, rfl, hu, hv⟩ := Regex.matches_star_cons.mp hs
        have done := (ends_before_iff m false pre c (u ++ v ++ post)).mpr (.inl hr)
        exact ⟨u, v, rfl, .inr ⟨by simp [done], hu⟩, hv⟩
      · exact ⟨u, v, rfl, .inl hr, hs⟩
    · obtain ⟨u, v, rfl, hu, hv⟩ := Regex.matches_star_cons.mp hr
      exact ⟨u, v, rfl, .inr ⟨by simp [hs], hu⟩, hv⟩
  · rintro ⟨u, v, rfl, hr | ⟨hs, hu⟩, hv⟩
    · exact .inl ⟨c :: u, v, rfl, hr, hv⟩
    · have whole := Regex.matches_star_cons.mpr ⟨u, v, rfl, hu, hv⟩
      rcases Bool.or_eq_true_iff.mp hs with hs | hs
      · exact .inr ⟨hs, whole⟩
      · rcases (ends_before_iff m false pre c (u ++ v ++ post)).mp hs with hr | ⟨hf, _⟩
        · exact .inl ⟨[], c :: (u ++ v), rfl, hr, by simpa [erase] using whole⟩
        · cases hf

@[simp] theorem erase_step (m : Marked) (p : Place) (c : Char) (start : Bool) :
    (m.step p c start).1.erase = m.erase := by
  induction m generalizing start with
  | empty | set | look => rfl
  | seq a b iha ihb => simp [step, erase, iha, ihb]
  | alt a b iha ihb => simp [step, erase, iha, ihb]
  | star r ih => simp [step, erase, ih]

/-- Moving the marks over a character leaves what has to be taken after it. -/
theorem resumes_step (m : Marked) (start : Bool) (pre mid post : List Char) (c : Char) :
    (m.step ⟨pre.getLast?, some c⟩ c start).1.Resumes (pre ++ [c]) mid post ↔
      m.Continues start pre (c :: mid) post := by
  induction m generalizing start mid post with
  | empty => simp [step, Continues, Resumes, erase, Regex.matches_empty]
  | set s mark =>
    simp [step, Continues, Resumes, erase, Regex.matches_set]
    tauto
  | look l => simp [step, Continues, Resumes, erase, Regex.matches_look]
  | seq a b iha ihb =>
    rw [continues_seq_cons]
    simp [step, Resumes, iha, ihb, step_snd]
  | alt a b iha ihb =>
    rw [continues_alt]
    simp [step, Resumes, iha, ihb]
  | star r ih =>
    rw [continues_star_cons]
    simp [step, Resumes, ih, erase]

/-! ## The whole search -/

/-- A search from one place on finds what is under way there, and what begins there or later. -/
theorem search_iff (m : Marked) (pre text : List Char) :
    m.search pre.getLast? text = true ↔
      (∃ mid post, text = mid ++ post ∧ m.Resumes pre mid post) ∨
      ∃ skipped mid post, text = skipped ++ mid ++ post ∧
        m.erase.Matches (pre ++ skipped) mid post := by
  induction text generalizing pre m with
  | nil =>
    have here : m.search pre.getLast? [] = m.ends (Regex.placeAt pre []) true := rfl
    rw [here, ends_iff]
    constructor
    · rintro (hr | ⟨_, hm⟩)
      · exact .inl ⟨[], [], rfl, hr⟩
      · exact .inr ⟨[], [], [], rfl, by simpa using hm⟩
    · rintro (⟨mid, post, htext, hr⟩ | ⟨skipped, mid, post, htext, hm⟩)
      · obtain ⟨rfl, rfl⟩ := List.append_eq_nil_iff.mp htext.symm
        exact .inl hr
      · obtain ⟨hskip, rfl⟩ := List.append_eq_nil_iff.mp htext.symm
        obtain ⟨rfl, rfl⟩ := List.append_eq_nil_iff.mp hskip
        exact .inr ⟨rfl, by simpa using hm⟩
  | cons c text ih =>
    have later := ih (m.step ⟨pre.getLast?, some c⟩ c true).1 (pre ++ [c])
    rw [List.getLast?_concat] at later
    rw [search, Bool.or_eq_true, step_snd, ends_before_iff m true pre c text, later]
    simp only [resumes_step, erase_step]
    constructor
    · rintro ((hr | ⟨_, hm⟩) | ⟨mid, post, rfl, hr | ⟨_, hm⟩⟩ | ⟨skipped, mid, post, rfl, hm⟩)
      · exact .inl ⟨[], c :: text, rfl, hr⟩
      · exact .inr ⟨[], [], c :: text, rfl, by simpa using hm⟩
      · exact .inl ⟨c :: mid, post, rfl, hr⟩
      · exact .inr ⟨[], c :: mid, post, rfl, by simpa using hm⟩
      · exact .inr ⟨c :: skipped, mid, post, rfl, by simpa using hm⟩
    · rintro (⟨mid, post, htext, hr⟩ | ⟨skipped, mid, post, htext, hm⟩)
      · rcases List.cons_eq_append_iff.mp htext with ⟨rfl, rfl⟩ | ⟨mid, rfl, rfl⟩
        · exact .inl (.inl hr)
        · exact .inr (.inl ⟨mid, post, rfl, .inl hr⟩)
      · rw [List.append_assoc] at htext
        rcases List.cons_eq_append_iff.mp htext with ⟨rfl, hrest⟩ | ⟨skipped, rfl, rfl⟩
        · rw [List.append_nil] at hm
          rcases List.cons_eq_append_iff.mp hrest.symm with ⟨rfl, rfl⟩ | ⟨mid, rfl, rfl⟩
          · exact .inl (.inr ⟨rfl, hm⟩)
          · exact .inr (.inl ⟨mid, post, rfl, .inr ⟨rfl, hm⟩⟩)
        · exact .inr (.inr ⟨skipped, mid, post, (List.append_assoc ..).symm, by simpa using hm⟩)

/-! ## Trees of patterns -/

theorem not_resumes_power (fresh : ∀ pre mid post, ¬ m.Resumes pre mid post) (n : Nat)
    (pre mid post : List Char) : ¬ (m.power n).Resumes pre mid post := by
  induction n generalizing pre mid post with
  | zero => exact id
  | succ n ih =>
    rintro (⟨u, v, _, hu, _⟩ | hrest)
    · exact fresh _ _ _ hu
    · exact ih _ _ _ hrest

/-- At first nothing is under way. -/
theorem not_resumes_ofRegex (r : Regex) (pre mid post : List Char) :
    ¬ (ofRegex r).Resumes pre mid post := by
  induction r generalizing pre mid post with
  | empty | set | look => simp [ofRegex, Resumes]
  | seq a b iha ihb => simp [ofRegex, Resumes, iha, ihb]
  | alt a b iha ihb => simp [ofRegex, Resumes, iha, ihb]
  | times r min max ih =>
    cases max with
    | none => simp [ofRegex, Resumes, ih, not_resumes_power ih]
    | some max =>
      have optional (pre mid post : List Char) :
          ¬ (alt (ofRegex r) empty).Resumes pre mid post := by
        simp [Resumes, ih]
      simp [ofRegex, Resumes, not_resumes_power ih, not_resumes_power optional]

@[simp] theorem erase_power (m : Marked) (n : Nat) : (m.power n).erase = m.erase.rounds n := by
  induction n with
  | zero => rfl
  | succ n ih => rw [power, erase, ih, Regex.rounds]

/-- The tree of a pattern matches what the pattern does. -/
theorem matches_erase_ofRegex {r : Regex} (bounded : r.bounded = true) :
    (ofRegex r).erase.Matches pre mid post ↔ r.Matches pre mid post := by
  induction r generalizing pre mid post with
  | empty | set | look => rfl
  | seq a b iha ihb =>
    rw [Regex.bounded, Bool.and_eq_true] at bounded
    simp only [ofRegex, erase, Regex.matches_seq, iha bounded.1, ihb bounded.2]
  | alt a b iha ihb =>
    rw [Regex.bounded, Bool.and_eq_true] at bounded
    simp only [ofRegex, erase, Regex.matches_alt, iha bounded.1, ihb bounded.2]
  | times r min max ih =>
    rw [Regex.bounded, Bool.and_eq_true] at bounded
    have same (pre mid post : List Char) := @ih pre mid post bounded.1
    rw [← Regex.matches_times_congr same, Regex.matches_times bounded.2]
    cases max with
    | none => simp [ofRegex, erase]
    | some max => simp [ofRegex, erase, Regex.matches_seq, Regex.matches_upTo]

end Marked

/-- A search finds a match exactly if the pattern matches some part of the text. -/
theorem Regex.occurs_iff {r : Regex} (bounded : r.bounded = true) (text : List Char) :
    r.occurs text = true ↔ r.Occurs text := by
  have found := Marked.search_iff (Marked.ofRegex r) [] text
  simp only [Marked.not_resumes_ofRegex, and_false, exists_false, false_or,
    Marked.matches_erase_ofRegex bounded, List.nil_append] at found
  exact found

end Straggler.Pattern
