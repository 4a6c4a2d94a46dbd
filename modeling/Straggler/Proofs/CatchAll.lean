import Mathlib.Data.Fintype.BigOperators
import Mathlib.Data.Fintype.Pigeonhole
import Straggler.Pattern.Size
import Straggler.Proofs.Builtin
import Straggler.Proofs.Search
import Straggler.Proofs.Validation

/-!
# Patterns that match everything

The empty pattern is refused because every process would match it, but it is not the only pattern
of that kind: one that can take nothing (`Regex.takesNothing`), by an empty branch, a repetition of
no rounds or an empty group, matches every line. Only conditions on a place can keep it from that.

Whether a pattern with such conditions matches every line cannot be told by looking at it, since
between the two ends of a text it may ask anything of the whole of it. But its marks and the
character before a place are all that a search remembers of a line, so a pattern that misses a line
misses one that is not too long (`Regex.horizon`).
-/

namespace Straggler

set_option autoImplicit false

namespace Pattern

/-! ## Taking nothing -/

namespace Regex

def takesNothing (p : Place) : Regex → Bool
  | empty => true
  | set _ => false
  | look l => l.holds p
  | seq a b => a.takesNothing p && b.takesNothing p
  | alt a b => a.takesNothing p || b.takesNothing p
  | times r min _ => min == 0 || r.takesNothing p

def unconditional : Regex → Bool
  | empty => true
  | set _ => true
  | look _ => false
  | seq a b => a.unconditional && b.unconditional
  | alt a b => a.unconditional && b.unconditional
  | times r _ _ => r.unconditional

theorem takesNothing_congr {r : Regex} (free : r.unconditional = true) (p q : Place) :
    r.takesNothing p = r.takesNothing q := by
  induction r with
  | empty | set => rfl
  | look l => cases free
  | seq a b iha ihb =>
    rw [unconditional, Bool.and_eq_true] at free
    rw [takesNothing, takesNothing, iha free.1, ihb free.2]
  | alt a b iha ihb =>
    rw [unconditional, Bool.and_eq_true] at free
    rw [takesNothing, takesNothing, iha free.1, ihb free.2]
  | times r min max ih => rw [takesNothing, takesNothing, ih free]

def slots : Regex → Nat
  | empty => 0
  | set _ => 1
  | look _ => 0
  | seq a b => a.slots + b.slots
  | alt a b => a.slots + b.slots
  | times r _ _ => r.slots

end Regex

namespace Marked

variable {m : Marked} {p : Place} {start taken : Bool}

theorem ends_power (once : ∀ start, m.ends p start = (start && taken)) (n : Nat) (start : Bool) :
    (m.power n).ends p start = (start && (n == 0 || taken)) := by
  induction n generalizing start with
  | zero => simp [power, ends]
  | succ n ih =>
    rw [power, ends, once, ih]
    cases start <;> cases taken <;> simp

/-- Without marks a tree is done where it begins, if it can take nothing there. -/
theorem ends_ofRegex (p : Place) (start : Bool) (r : Regex) :
    (ofRegex r).ends p start = (start && r.takesNothing p) := by
  induction r generalizing start with
  | empty => simp [ofRegex, ends, Regex.takesNothing]
  | set s => simp [ofRegex, ends, Regex.takesNothing]
  | look l => rfl
  | seq a b iha ihb => rw [ofRegex, ends, iha, ihb, Regex.takesNothing, Bool.and_assoc]
  | alt a b iha ihb => rw [ofRegex, ends, iha, ihb, Regex.takesNothing, Bool.and_or_distrib_left]
  | times r min max ih =>
    have required := ends_power (fun start => ih start) min
    cases max with
    | none => simp [ofRegex, ends, required, ih, Regex.takesNothing]
    | some max =>
      have optional (start : Bool) :
          (alt (ofRegex r) empty).ends p start = (start && true) := by
        rw [ends, ih, ends]
        cases start <;> simp
      simp [ofRegex, ends, required, ends_power optional, Regex.takesNothing]

end Marked

namespace Regex

variable {r : Regex}

/-- The empty text is matched exactly by what can take nothing where both of its ends are. -/
theorem occurs_nil (r : Regex) : r.occurs [] = r.takesNothing ⟨none, none⟩ := by
  have here : r.occurs [] = (Marked.ofRegex r).ends ⟨none, none⟩ true := rfl
  rw [here, Marked.ends_ofRegex, Bool.true_and]

theorem occurs_of_takesNothing {text : List Char}
    (taken : r.takesNothing ⟨none, text.head?⟩ = true) : r.occurs text = true := by
  cases text with
  | nil => rwa [occurs_nil]
  | cons c text =>
    rw [occurs, Marked.search, Bool.or_eq_true]
    left
    rw [Marked.step_snd, Marked.ends_ofRegex, Bool.true_and]
    exact taken

end Regex

/-! ## What a search remembers -/

namespace Marked

/-- The character before a place, and the tree with its marks there. -/
structure Memory where
  before : Option Char
  tree : Marked

namespace Memory

def next (s : Memory) (c : Char) : Memory where
  before := some c
  tree := (s.tree.step ⟨s.before, some c⟩ c true).1

def walk (s : Memory) (text : List Char) : Memory :=
  text.foldl next s

def search (s : Memory) (text : List Char) : Bool :=
  s.tree.search s.before text

def passes (s : Memory) : List Char → Bool
  | [] => true
  | c :: cs => !s.tree.ends ⟨s.before, some c⟩ true && (s.next c).passes cs

variable {s : Memory} {u v w : List Char}

theorem search_cons (s : Memory) (c : Char) (cs : List Char) :
    s.search (c :: cs) = (s.tree.ends ⟨s.before, some c⟩ true || (s.next c).search cs) := by
  rw [← step_snd]
  rfl

/-- A search that has found nothing goes on from what it remembers. -/
theorem search_append (s : Memory) (u v : List Char) :
    s.search (u ++ v) = (!s.passes u || (s.walk u).search v) := by
  induction u generalizing s with
  | nil => rfl
  | cons c u ih =>
    have walked : s.walk (c :: u) = (s.next c).walk u := rfl
    rw [List.cons_append, search_cons, ih, walked, passes, Bool.not_and, Bool.not_not,
      Bool.or_assoc]

theorem missed_append : s.search (u ++ v) = false ↔
    s.passes u = true ∧ (s.walk u).search v = false := by
  rw [search_append, Bool.or_eq_false_iff, Bool.not_eq_false']

/-- What lies between two places that leave the same memory can be cut out. -/
theorem missed_cut (same : s.walk (u ++ v) = s.walk u) (missed : s.search (u ++ (v ++ w)) = false) :
    s.search (u ++ w) = false := by
  obtain ⟨before, -⟩ := missed_append.mp missed
  rw [← List.append_assoc, missed_append, same] at missed
  exact missed_append.mpr ⟨before, missed.2⟩

end Memory

/-! ## How much that is -/

variable {m n a b c d : Marked}

def marks : Marked → List Bool
  | empty => []
  | set _ mark => [mark]
  | look _ => []
  | seq a b => a.marks ++ b.marks
  | alt a b => a.marks ++ b.marks
  | star r => r.marks

theorem length_marks (m : Marked) : m.marks.length = m.erase.slots := by
  induction m with
  | empty | set | look => rfl
  | seq a b iha ihb => rw [marks, List.length_append, iha, ihb, erase, Regex.slots]
  | alt a b iha ihb => rw [marks, List.length_append, iha, ihb, erase, Regex.slots]
  | star r ih => exact ih

theorem marks_append_inj (shape : a.erase = c.erase)
    (same : a.marks ++ b.marks = c.marks ++ d.marks) :
    a.marks = c.marks ∧ b.marks = d.marks := by
  apply List.append_inj same
  rw [length_marks, length_marks, shape]

theorem eq_of_marks (shape : m.erase = n.erase) (same : m.marks = n.marks) : m = n := by
  induction m generalizing n with
  | empty | set | look => cases n <;> simp_all [erase, marks]
  | seq a b iha ihb =>
    cases n <;> simp only [erase, Regex.seq.injEq, reduceCtorEq] at shape
    obtain ⟨left, right⟩ := marks_append_inj shape.1 same
    rw [iha shape.1 left, ihb shape.2 right]
  | alt a b iha ihb =>
    cases n <;> simp only [erase, Regex.alt.injEq, reduceCtorEq] at shape
    obtain ⟨left, right⟩ := marks_append_inj shape.1 same
    rw [iha shape.1 left, ihb shape.2 right]
  | star r ih =>
    cases n <;> simp only [erase, Regex.times.injEq, reduceCtorEq] at shape
    rw [ih shape.1 same]

namespace Memory

theorem erase_walk (s : Memory) (text : List Char) : (s.walk text).tree.erase = s.tree.erase := by
  induction text generalizing s with
  | nil => rfl
  | cons c text ih => exact (ih (s.next c)).trans (erase_step _ _ _ _)

/-- How many memories there are of a tree with so many sets: the character before, if there is one,
and a mark or none on each set. -/
def count (slots : Nat) : Nat :=
  (Char.numCodePoints + 1) * 2 ^ slots

def code (s : Memory) {slots : Nat} (h : s.tree.erase.slots = slots) :
    Option (Fin Char.numCodePoints) × List.Vector Bool slots :=
  (s.before.map Char.ordinal, ⟨s.tree.marks, (length_marks s.tree).trans h⟩)

theorem card_codes (slots : Nat) :
    Fintype.card (Option (Fin Char.numCodePoints) × List.Vector Bool slots) = count slots := by
  rw [Fintype.card_prod, Fintype.card_option, Fintype.card_fin, card_vector, Fintype.card_bool,
    count]

theorem eq_of_code {s t : Memory} {slots : Nat} (shape : s.tree.erase = t.tree.erase)
    (hs : s.tree.erase.slots = slots) (ht : t.tree.erase.slots = slots)
    (same : s.code hs = t.code ht) : s = t := by
  obtain ⟨befores, trees⟩ := Prod.mk.inj same
  have before : s.before = t.before :=
    Option.map_injective Char.ordinal_injective befores
  have tree : s.tree = t.tree := eq_of_marks shape (congrArg Subtype.val trees)
  cases s
  cases t
  cases before
  cases tree
  rfl

/-- On a long text a search remembers at two places the same. -/
theorem exists_repeat (s : Memory) {text : List Char}
    (long : count s.tree.erase.slots ≤ text.length) :
    ∃ u v w, text = u ++ (v ++ w) ∧ v ≠ [] ∧ s.walk (u ++ v) = s.walk u := by
  have kept (i : Nat) : (s.walk (text.take i)).tree.erase = s.tree.erase := erase_walk _ _
  have fewer : Fintype.card (Option (Fin Char.numCodePoints) ×
      List.Vector Bool s.tree.erase.slots) < Fintype.card (Fin (text.length + 1)) := by
    rw [card_codes, Fintype.card_fin]
    omega
  obtain ⟨i, j, ne, same⟩ := Fintype.exists_ne_map_eq_of_card_lt
    (fun i : Fin (text.length + 1) => (s.walk (text.take i)).code (congrArg Regex.slots (kept i)))
    fewer
  have memories : s.walk (text.take i) = s.walk (text.take j) :=
    eq_of_code ((kept i).trans (kept j).symm) _ _ same
  wlog ordered : i.val < j.val generalizing i j
  · exact this j i ne.symm same.symm memories.symm (by omega)
  have inside : j.val ≤ text.length := Nat.le_of_lt_succ j.isLt
  have split : text.take j = text.take i ++ (text.take j).drop i := by
    conv_lhs => rw [← List.take_append_drop i (text.take j)]
    rw [List.take_take, Nat.min_eq_left ordered.le]
  refine ⟨text.take i, (text.take j).drop i, text.drop j, ?_, ?_, ?_⟩
  · rw [← List.append_assoc, ← split, List.take_append_drop]
  · apply List.ne_nil_of_length_pos
    rw [List.length_drop, List.length_take]
    omega
  · rw [← split, memories]

theorem exists_short_missed {s : Memory} {text : List Char} (missed : s.search text = false) :
    ∃ short : List Char, short.length < count s.tree.erase.slots ∧ s.search short = false := by
  induction hn : text.length using Nat.strong_induction_on generalizing text with
  | _ n ih =>
    by_cases long : count s.tree.erase.slots ≤ text.length
    · obtain ⟨u, v, w, rfl, some_char, same⟩ := s.exists_repeat long
      have shorter : (u ++ w).length < n := by
        have := List.length_pos_iff.mpr some_char
        simp only [List.length_append] at hn ⊢
        omega
      exact ih _ shorter (missed_cut same missed) rfl
    · exact ⟨text, by omega, missed⟩

end Memory

end Marked

namespace Regex

/-- A pattern that misses a text misses one that is shorter than this. -/
def horizon (r : Regex) : Nat :=
  Marked.Memory.count (Marked.ofRegex r).erase.slots

theorem exists_short_missed {r : Regex} {text : List Char} (missed : r.occurs text = false) :
    ∃ short : List Char, short.length < r.horizon ∧ r.occurs short = false :=
  Marked.Memory.exists_short_missed (s := ⟨none, Marked.ofRegex r⟩) missed

/-- Some text is missed: the empty one, or one of those that conditions on places can keep out. -/
def Selective (r : Regex) : Prop :=
  r.takesNothing ⟨none, none⟩ = false ∨
    r.unconditional = false ∧ ∃ text : List Char, text.length < r.horizon ∧ r.occurs text = false

theorem selective_iff {r : Regex} : r.Selective ↔ ∃ text, r.occurs text = false := by
  constructor
  · rintro (some_char | ⟨-, text, -, missed⟩)
    · exact ⟨[], by rw [occurs_nil, some_char]⟩
    · exact ⟨text, missed⟩
  · rintro ⟨text, missed⟩
    by_cases taken : r.takesNothing ⟨none, none⟩ = true
    · refine .inr ⟨?_, exists_short_missed missed⟩
      -- Without conditions the pattern could also take nothing at the beginning of this text.
      rw [Bool.eq_false_iff]
      intro free
      rw [takesNothing_congr free ⟨none, none⟩ ⟨none, text.head?⟩] at taken
      rw [occurs_of_takesNothing taken] at missed
      cases missed
    · exact .inl (Bool.eq_false_iff.mpr taken)

end Regex

end Pattern

/-! ## Rules -/

/-- The rule leaves out some command lines: a text always does, and a pattern if it is selective. -/
def Rule.Selective : Rule → Prop
  | substring _ => True
  | regex _ pattern => pattern.Selective

theorem Rule.substring_misses_nil {text : String} (nonempty : text ≠ "") :
    (substring text).isMatch "" = false := by
  have held := holdsText_iff text.toList "".toList
  rw [String.toList_empty, List.infix_nil, String.toList_eq_nil_iff] at held
  rw [Bool.eq_false_iff]
  exact fun matched => nonempty (held.mp matched)

/-- A rule that is accepted misses some command line exactly if it is selective. -/
theorem compiled_rule_misses_iff [Pattern.Engine] (category pattern : String) (kind : RuleKind)
    (rule : Rule) (made : Rule.compile category pattern kind = .ok rule) :
    (∃ line, rule.isMatch line = false) ↔ rule.Selective := by
  obtain ⟨nonempty, keeps⟩ := Rule.compile_eq_ok_iff.mp made
  cases rule with
  | substring text =>
    have written : text = pattern := keeps.source
    rw [← written] at nonempty
    exact iff_of_true ⟨"", Rule.substring_misses_nil nonempty⟩ trivial
  | regex source r =>
    rw [Rule.Selective, Pattern.Regex.selective_iff]
    constructor
    · rintro ⟨line, missed⟩
      exact ⟨line.toList, missed⟩
    · rintro ⟨text, missed⟩
      refine ⟨.ofList text, ?_⟩
      rwa [Rule.isMatch, String.toList_ofList]

/-- Between both ends of a text there is nothing but the empty text. -/
theorem compiled_rule_misses_iff_anchored :
    Rule.compile "worker" "^$" .regex =
        .ok (.regex "^$" (.seq (.look .textStart) (.look .textEnd))) ∧
      (Rule.regex "^$" (.seq (.look .textStart) (.look .textEnd))).Selective := by
  have made : Rule.compile "worker" "^$" .regex =
      .ok (.regex "^$" (.seq (.look .textStart) (.look .textEnd))) := rfl
  exact ⟨made, (compiled_rule_misses_iff "worker" "^$" .regex _ made).mp ⟨"a", by decide⟩⟩

/-- A bar at the end is followed by an empty branch, and this pattern is not refused. -/
theorem empty_branch_matches_every_line :
    ¬ ∀ (category pattern : String) (kind : RuleKind) (rule : Rule),
      Rule.compile category pattern kind = .ok rule → ∃ line, rule.isMatch line = false := by
  intro missing
  obtain ⟨r, made, taken⟩ : ∃ r, Rule.compile "worker" "pytest|" .regex =
      .ok (.regex "pytest|" r) ∧ ∀ p, r.takesNothing p = true := ⟨_, rfl, fun p => rfl⟩
  obtain ⟨line, missed⟩ := missing "worker" "pytest|" .regex _ made
  have matched : (Rule.regex "pytest|" r).isMatch line = true :=
    Pattern.Regex.occurs_of_takesNothing (taken _)
  rw [missed] at matched
  cases matched

end Straggler
