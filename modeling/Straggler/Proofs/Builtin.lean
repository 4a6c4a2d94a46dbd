import Straggler.Config
import Straggler.Proofs.Search

/-!
# The built-in categories

What the three rules look for that are used when none are configured: a worker named on one line
with the tool it works for, an interpreter that runs the tool as a module, and the name of the
tool. The patterns are read once, and then each of them is a sequence of texts and runs of
characters, so a match of it is a way of cutting the command line into such pieces.
-/

namespace Straggler

open Pattern Pattern.Regex

set_option autoImplicit false

theorem holdsText_iff (needle text : List Char) :
    holdsText needle text = true ↔ needle <:+: text := by
  induction text with
  | nil => simp [holdsText]
  | cons c cs ih => simp [holdsText, ih, List.infix_cons_iff]

/-- The one piece and, later on the same line of the text, the other. -/
def FollowsOnLine (first second : String) (line : String) : Prop :=
  ∃ before gap after : List Char,
    line.toList = before ++ first.toList ++ gap ++ second.toList ++ after ∧ '\n' ∉ gap

/-- An interpreter of any version, the switch that names a module, and the module, with blanks
between them. -/
def RunsModule (interpreter switch module : String) (line : String) : Prop :=
  ∃ before version blanks blanks' after : List Char,
    line.toList = before ++ interpreter.toList ++ version ++ blanks ++ switch.toList ++ blanks'
      ++ module.toList ++ after ∧
    (∀ c ∈ version, c.isDigit = true ∨ c = '.') ∧
    (blanks ≠ [] ∧ ∀ c ∈ blanks, Unicode.isBlank c = true) ∧
    (blanks' ≠ [] ∧ ∀ c ∈ blanks', Unicode.isBlank c = true)

/-! ## The patterns as trees -/

def restOfLine : Regex :=
  .times (.set (.compl (.single '\n'))) 0 none

def workerPattern : Regex :=
  .alt
    (.seqs ([.alt (.seqs (literal "pytest".toList)) (.seqs (literal "xdist".toList))]
      ++ restOfLine :: literal "worker".toList))
    (.seqs (literal "worker".toList ++ restOfLine :: literal "pytest".toList))

def versionDigits : Regex :=
  .times (.set (.any [.range '0' '9', .single '.'])) 0 none

def someBlanks : Regex :=
  .times (.set Unicode.whiteSpace) 1 none

def runnerPattern : Regex :=
  .seqs (literal "python".toList ++ versionDigits :: someBlanks :: (literal "-m".toList
    ++ someBlanks :: literal "pytest".toList))

theorem builtin_categories :
    Settings.builtin.categories =
      [⟨"worker", .regex "(pytest|xdist).*worker|worker.*pytest" workerPattern⟩,
        ⟨"runner", .regex "python[0-9.]*\\s+-m\\s+pytest" runnerPattern⟩,
        ⟨"generic", .substring "pytest"⟩] := rfl

/-! ## What the patterns look for -/

variable {pre mid post : List Char}

theorem matches_restOfLine : restOfLine.Matches pre mid post ↔ '\n' ∉ mid := by
  rw [restOfLine, matches_run]
  simp only [Unicode.CharSet.has_compl, Unicode.CharSet.has_single, Bool.not_eq_true',
    decide_eq_false_iff_not]
  constructor
  · intro h hmem
    exact h '\n' hmem rfl
  · rintro h c hc rfl
    exact h hc

theorem has_versionDigit (c : Char) :
    (Unicode.CharSet.any [.range '0' '9', .single '.']).has c = true ↔
      c.isDigit = true ∨ c = '.' := by
  simp [Char.isDigit_iff_toNat]

theorem matches_versionDigits :
    versionDigits.Matches pre mid post ↔ ∀ c ∈ mid, c.isDigit = true ∨ c = '.' := by
  rw [versionDigits, matches_run]
  simp only [has_versionDigit]

theorem matches_someBlanks :
    someBlanks.Matches pre mid post ↔ mid ≠ [] ∧ ∀ c ∈ mid, Unicode.isBlank c = true :=
  matches_run_pos

/-- Some pieces and, later on the same line, a text. -/
theorem matches_followed {rs : List Regex} {text : List Char} :
    (seqs (rs ++ restOfLine :: literal text)).Matches pre mid post ↔
      ∃ u gap, mid = u ++ gap ++ text ∧ (seqs rs).Matches pre u (gap ++ text ++ post) ∧
        '\n' ∉ gap := by
  rw [matches_seqs_append, matches_seq]
  simp only [matches_seqs_cons, matches_seq, matches_restOfLine, matches_literal]
  constructor
  · rintro ⟨u, _, rfl, hu, gap, _, rfl, hgap, rfl⟩
    exact ⟨u, gap, (List.append_assoc ..).symm, hu, hgap⟩
  · rintro ⟨u, gap, rfl, hu, hgap⟩
    exact ⟨u, gap ++ text, List.append_assoc .., hu, gap, text, rfl, hgap, rfl⟩

theorem matches_workerPattern :
    workerPattern.Matches pre mid post ↔
      (∃ first gap, mid = first ++ gap ++ "worker".toList ∧
        (first = "pytest".toList ∨ first = "xdist".toList) ∧ '\n' ∉ gap) ∨
      ∃ gap, mid = "worker".toList ++ gap ++ "pytest".toList ∧ '\n' ∉ gap := by
  rw [workerPattern, matches_alt, matches_followed, matches_followed]
  simp only [seqs, matches_alt, matches_literal]
  constructor
  · rintro (h | ⟨_, gap, rfl, rfl, hgap⟩)
    · exact .inl h
    · exact .inr ⟨gap, rfl, hgap⟩
  · rintro (h | ⟨gap, rfl, hgap⟩)
    · exact .inl h
    · exact .inr ⟨_, gap, rfl, rfl, hgap⟩

theorem occurs_workerPattern (line : String) :
    workerPattern.Occurs line.toList ↔
      FollowsOnLine "pytest" "worker" line ∨ FollowsOnLine "xdist" "worker" line ∨
        FollowsOnLine "worker" "pytest" line := by
  simp only [Occurs, FollowsOnLine, matches_workerPattern]
  constructor
  · rintro ⟨before, _, after, hline, ⟨first, gap, rfl, rfl | rfl, hgap⟩ | ⟨gap, rfl, hgap⟩⟩
    · exact .inl ⟨before, gap, after, by simpa using hline, hgap⟩
    · exact .inr (.inl ⟨before, gap, after, by simpa using hline, hgap⟩)
    · exact .inr (.inr ⟨before, gap, after, by simpa using hline, hgap⟩)
  · rintro (⟨before, gap, after, hline, hgap⟩ | ⟨before, gap, after, hline, hgap⟩ |
      ⟨before, gap, after, hline, hgap⟩)
    · exact ⟨before, _, after, by simpa using hline, .inl ⟨_, gap, rfl, .inl rfl, hgap⟩⟩
    · exact ⟨before, _, after, by simpa using hline, .inl ⟨_, gap, rfl, .inr rfl, hgap⟩⟩
    · exact ⟨before, _, after, by simpa using hline, .inr ⟨gap, rfl, hgap⟩⟩

theorem occurs_runnerPattern (line : String) :
    runnerPattern.Occurs line.toList ↔ RunsModule "python" "-m" "pytest" line := by
  simp only [Occurs, runnerPattern, matches_seqs_append, matches_seqs_cons, matches_seq,
    matches_literal, matches_versionDigits, matches_someBlanks, RunsModule]
  constructor
  · rintro ⟨before, _, after, hline, _, _, rfl, rfl, version, _, rfl, hversion, blanks, _, rfl,
      hblanks, _, _, rfl, rfl, blanks', _, rfl, hblanks', rfl⟩
    exact ⟨before, version, blanks, blanks', after, by simpa using hline, hversion, hblanks,
      hblanks'⟩
  · rintro ⟨before, version, blanks, blanks', after, hline, hversion, hblanks, hblanks'⟩
    exact ⟨before, _, after, by simpa using hline, _, _, rfl, rfl, version, _, rfl, hversion,
      blanks, _, rfl, hblanks, _, _, rfl, rfl, blanks', _, rfl, hblanks', rfl⟩

/-! ## The built-in rules -/

theorem RunsModule.holds {interpreter switch module line : String}
    (h : RunsModule interpreter switch module line) : module.toList <:+: line.toList := by
  obtain ⟨before, version, blanks, blanks', after, hline, _⟩ := h
  exact ⟨_, after, hline.symm⟩

/-- What each of the built-in rules matches. Whatever runs the tool as a module names it too. -/
theorem builtin_rules_match :
    ∃ worker runner generic : Rule,
      Settings.builtin.categories =
        [⟨"worker", worker⟩, ⟨"runner", runner⟩, ⟨"generic", generic⟩] ∧
      ∀ line : String,
        (worker.isMatch line = true ↔
          FollowsOnLine "pytest" "worker" line ∨ FollowsOnLine "xdist" "worker" line ∨
            FollowsOnLine "worker" "pytest" line) ∧
        (runner.isMatch line = true ↔ RunsModule "python" "-m" "pytest" line) ∧
        (generic.isMatch line = true ↔ "pytest".toList <:+: line.toList) ∧
        (runner.isMatch line = true → generic.isMatch line = true) := by
  refine ⟨_, _, _, builtin_categories, fun line => ?_⟩
  have worker : workerPattern.occurs line.toList = true ↔ _ :=
    (occurs_iff rfl _).trans (occurs_workerPattern line)
  have runner : runnerPattern.occurs line.toList = true ↔ _ :=
    (occurs_iff rfl _).trans (occurs_runnerPattern line)
  have generic := holdsText_iff "pytest".toList line.toList
  refine ⟨worker, runner, generic, ?_⟩
  intro h
  have runs : RunsModule "python" "-m" "pytest" line := runner.mp h
  exact generic.mpr runs.holds

end Straggler
