import Straggler.Pattern.Size
import Straggler.Proofs.Builtin
import Straggler.Proofs.Validation

/-!
# Plain text as a pattern

A text without any sign that means something in a pattern is read character by character, and the
pattern it makes looks for the text itself. So it does not matter of which kind a rule of such a
text is. Only its size can keep it from being read, where the engine has no room for it.
-/

namespace Straggler

set_option autoImplicit false

namespace Pattern

open Unicode

def metacharacters : List Char :=
  ['\\', '.', '+', '*', '?', '(', ')', '|', '[', ']', '{', '}', '^', '$']

def Plain (text : List Char) : Prop :=
  ∀ c ∈ text, c ∉ metacharacters

/-! ## Reading -/

def charPiece (c : Char) : Piece where
  regex := .set (.single c)

variable {o : Outline} {c : Char} {cs text : List Char}

theorem step_plain (flags : o.flags = {}) (h : c ∉ metacharacters) (cs : List Char) :
    o.step c cs = .ok (o.push (charPiece c), cs) := by
  unfold Outline.step
  split <;> try exact absurd (by decide) h
  rw [flags]
  rfl

theorem run_plain (flags : o.flags = {}) (plain : Plain text) :
    o.run text.length text = .ok ((text.map charPiece).foldl Outline.push o) := by
  -- Each character takes one unit of the fuel, which is just enough.
  induction text generalizing o with
  | nil => rfl
  | cons c cs ih =>
    obtain ⟨first, rest⟩ := List.forall_mem_cons.mp plain
    have skipped : o.flags.skip (c :: cs) = c :: cs := by rw [flags]; rfl
    have later := ih (o := o.push (charPiece c)) flags rest
    rw [List.length_cons, Outline.run, skipped]
    simp only [step_plain flags first, List.map_cons, List.foldl_cons]
    exact later

theorem foldl_push (ps : List Piece) (o : Outline) :
    ps.foldl Outline.push o =
      { o with level := { o.level with pieces := ps.reverse ++ o.level.pieces } } := by
  induction ps generalizing o with
  | nil => rfl
  | cons p ps ih =>
    rw [List.foldl_cons, ih]
    simp [Outline.push]

theorem sequence_regex (ps : List Piece) :
    (sequence ps).regex = .seqs (ps.reverse.map (·.regex)) := by
  cases ps with
  | nil => rfl
  | cons p ps => cases ps <;> rfl

theorem foldl_height {ps : List Piece} (flat : ∀ p ∈ ps, p.height = 0) (h : Nat) :
    ps.foldl (fun h p => Nat.max h p.height) h = h := by
  induction ps with
  | nil => rfl
  | cons p ps ih =>
    obtain ⟨first, rest⟩ := List.forall_mem_cons.mp flat
    have same : Nat.max h 0 = h := Nat.max_zero h
    rw [List.foldl_cons, first, same, ih rest]

/-- Joining pieces adds one level to what is nested in them. -/
theorem sequence_height {ps : List Piece} (flat : ∀ p ∈ ps, p.height = 0) :
    (sequence ps).height ≤ 1 := by
  cases ps with
  | nil => exact Nat.zero_le 1
  | cons p ps =>
    cases ps with
    | nil =>
      have first : (sequence [p]).height = 0 := flat p List.mem_cons_self
      omega
    | cons q ps =>
      have whole : (sequence (p :: q :: ps)).height = 0 + 1 :=
        congrArg (· + 1) (foldl_height flat 0)
      omega

namespace Regex

theorem bounded_seqs {rs : List Regex} (each : ∀ r ∈ rs, r.bounded = true) :
    (seqs rs).bounded = true := by
  induction rs with
  | nil => rfl
  | cons r rs ih =>
    obtain ⟨first, rest⟩ := List.forall_mem_cons.mp each
    cases rs with
    | nil => exact first
    | cons s rs =>
      have whole : (seqs (r :: s :: rs)).bounded = (r.bounded && (seqs (s :: rs)).bounded) := rfl
      rw [whole, first, ih rest, Bool.and_self]

theorem bounded_literal (text : List Char) : (seqs (literal text)).bounded = true := by
  apply bounded_seqs
  intro r hr
  obtain ⟨c, -, rfl⟩ := List.mem_map.mp hr
  rfl

theorem parse_plain (plain : Plain text) : parse text = .ok (seqs (literal text)) := by
  have flat : ∀ p ∈ (text.map charPiece).reverse, p.height = 0 := by
    intro p hp
    obtain ⟨c, -, rfl⟩ := List.mem_map.mp (List.mem_reverse.mp hp)
    rfl
  have pieces : (sequence (text.map charPiece).reverse).regex = seqs (literal text) := by
    rw [sequence_regex, List.reverse_reverse, List.map_map]
    rfl
  have height := sequence_height flat
  have shallow : ¬ heightLimit < (sequence (text.map charPiece).reverse).height := by
    rw [heightLimit]
    omega
  rw [parse, run_plain rfl plain, foldl_push, ← pieces]
  simp only [bind, Except.bind, Level.whole, List.append_nil, if_neg shallow]
  rfl

/-- A text is read as itself, if the engine has room for it. -/
theorem read_plain [Engine] (plain : Plain text) :
    read text =
      if Engine.oversized text = true then .error .tooLarge else .ok (seqs (literal text)) := by
  rw [read, parse_plain plain]
  rfl

/-- Searching for a text by its pattern finds it wherever it stands. -/
theorem occurs_literal (text line : List Char) :
    (seqs (literal text)).occurs line = true ↔ text <:+: line := by
  rw [occurs_iff (bounded_literal text)]
  constructor
  · rintro ⟨before, mid, after, hline, matched⟩
    obtain rfl := matches_literal.mp matched
    exact ⟨before, after, hline.symm⟩
  · rintro ⟨before, after, hline⟩
    exact ⟨before, text, after, hline.symm, matches_literal.mpr rfl⟩

end Regex

end Pattern

/-! ## Rules -/

namespace Rule

variable {category pattern line : String}

theorem isMatch_substring :
    (substring pattern).isMatch line = true ↔ pattern.toList <:+: line.toList :=
  holdsText_iff _ _

theorem isMatch_literal :
    (regex pattern (.seqs (Pattern.Regex.literal pattern.toList))).isMatch line = true ↔
      pattern.toList <:+: line.toList :=
  Pattern.Regex.occurs_literal _ _

theorem compile_plain [Pattern.Engine] (nonempty : pattern ≠ "")
    (plain : Pattern.Plain pattern.toList) :
    compile category pattern .regex =
      if Pattern.Engine.oversized pattern.toList = true then
        .error (.invalidPattern category (.refused .tooLarge))
      else .ok (regex pattern (.seqs (Pattern.Regex.literal pattern.toList))) := by
  rw [compile_regex nonempty, Pattern.Regex.read_plain plain]
  by_cases large : Pattern.Engine.oversized pattern.toList = true
  · rw [if_pos large, if_pos large]
  · rw [if_neg large, if_neg large]

theorem discover_congr {r t : Rule} (same : ∀ line, r.isMatch line = t.isMatch line)
    (s : Snapshot) : r.discover s = t.discover s :=
  List.filter_congr fun record _ => same record.commandLine

end Rule

/-- A plain text makes a rule that looks for the text. Whatever rule it makes as a regular
expression matches and finds the same, and it makes one unless the engine has no room for it. -/
theorem plain_rules_agree [Pattern.Engine] (category pattern : String) (nonempty : pattern ≠ "")
    (plain : Pattern.Plain pattern.toList) :
    ∃ literal, Rule.compile category pattern .substring = .ok literal ∧
      (∀ line, literal.isMatch line = true ↔ pattern.toList <:+: line.toList) ∧
      (∀ rule, Rule.compile category pattern .regex = .ok rule →
        (∀ line, rule.isMatch line = true ↔ literal.isMatch line = true) ∧
        ∀ s, rule.discover s = literal.discover s) ∧
      ((∃ rule, Rule.compile category pattern .regex = .ok rule) ↔
        Pattern.Engine.oversized pattern.toList = false) ∧
      ∀ e, Rule.compile category pattern .regex = .error e →
        e = .invalidPattern category (.refused .tooLarge) := by
  refine ⟨.substring pattern, Rule.compile_substring nonempty, fun line => Rule.isMatch_substring,
    ?_⟩
  rw [Rule.compile_plain nonempty plain]
  cases large : Pattern.Engine.oversized pattern.toList with
  | true =>
    rw [if_pos rfl]
    refine ⟨nofun, ⟨nofun, nofun⟩, ?_⟩
    rintro e ⟨⟩
    rfl
  | false =>
    rw [if_neg Bool.false_ne_true]
    refine ⟨?agree, ⟨fun _ => rfl, fun _ => ⟨_, rfl⟩⟩, nofun⟩
    case agree =>
      rintro rule ⟨⟩
      have same (line : String) :
          (Rule.regex pattern (.seqs (Pattern.Regex.literal pattern.toList))).isMatch line = true ↔
            (Rule.substring pattern).isMatch line = true := by
        rw [Rule.isMatch_literal, Rule.isMatch_substring]
      refine ⟨same, ?_⟩
      apply Rule.discover_congr
      intro line
      rw [Bool.eq_iff_iff, same]

/-- A text that overlaps itself, beyond seven bits. -/
theorem plain_rules_agree_overlapping :
    "añaña" ≠ "" ∧ Pattern.Plain "añaña".toList ∧
      ∃ rule, Rule.compile "overlap" "añaña" .regex = .ok rule ∧
        rule.isMatch "mañañaña" = true ∧ rule.isMatch "mañana" = false := by
  have nonempty : "añaña" ≠ "" := by decide
  have plain : Pattern.Plain "añaña".toList := by simp [Pattern.Plain, Pattern.metacharacters]
  refine ⟨nonempty, plain, ?_⟩
  obtain ⟨literal, made, -, agree, accepted, -⟩ :=
    plain_rules_agree "overlap" "añaña" nonempty plain
  cases made
  obtain ⟨rule, made⟩ := accepted.mpr (by decide)
  obtain ⟨same, -⟩ := agree rule made
  refine ⟨rule, made, (same _).mpr (by decide), ?_⟩
  rw [Bool.eq_false_iff, ne_eq, same]
  decide

end Straggler
