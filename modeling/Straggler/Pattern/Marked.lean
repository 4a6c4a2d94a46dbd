import Straggler.Pattern.Regex

/-!
# Searching in one pass

The tree of a pattern with a mark on each character set that has just consumed a character on some
way of matching. One step moves all marks over the next character, so a search takes time in
proportion to the text, whatever the pattern.
-/

namespace Straggler.Pattern

open Unicode

set_option autoImplicit false

inductive Marked
  | empty
  | set (s : CharSet) (mark : Bool)
  | look (l : Look)
  | seq (a b : Marked)
  | alt (a b : Marked)
  | star (r : Marked)
  deriving DecidableEq, Repr

namespace Marked

def power (r : Marked) : Nat → Marked
  | 0 => empty
  | n + 1 => seq r (power r n)

def ofRegex : Regex → Marked
  | .empty => empty
  | .set s => set s false
  | .look l => look l
  | .seq a b => seq (ofRegex a) (ofRegex b)
  | .alt a b => alt (ofRegex a) (ofRegex b)
  | .times r min none => seq (power (ofRegex r) min) (star (ofRegex r))
  | .times r min (some max) =>
    seq (power (ofRegex r) min) (power (alt (ofRegex r) empty) (max - min))

/-- A match of the tree ends at this place, begun here (if one may begin here) or at a mark. -/
def ends (p : Place) (start : Bool) : Marked → Bool
  | empty => start
  | set _ mark => mark
  | look l => start && l.holds p
  | seq a b => b.ends p (a.ends p start)
  | alt a b => a.ends p start || b.ends p start
  | star r => start || r.ends p false

/-- Moves the marks over the next character, and says whether a match ended before it. -/
def step (p : Place) (c : Char) (start : Bool) : Marked → Marked × Bool
  | empty => (empty, start)
  | set s mark => (set s (start && s.has c), mark)
  | look l => (look l, start && l.holds p)
  | seq a b =>
    let (a, middle) := a.step p c start
    let (b, done) := b.step p c middle
    (seq a b, done)
  | alt a b =>
    let (a, left) := a.step p c start
    let (b, right) := b.step p c start
    (alt a b, left || right)
  | star r =>
    let start := start || r.ends p false
    (star (r.step p c start).1, start)

theorem step_snd (p : Place) (c : Char) (start : Bool) (r : Marked) :
    (r.step p c start).2 = r.ends p start := by
  induction r generalizing start with
  | empty => rfl
  | set s mark => rfl
  | look l => rfl
  | seq a b iha ihb => simp [step, ends, iha, ihb]
  | alt a b iha ihb => simp [step, ends, iha, ihb]
  | star r ih => rfl

/-- A match may begin at every place, and the first end of one is enough. -/
def search (before : Option Char) (r : Marked) : List Char → Bool
  | [] => r.ends ⟨before, none⟩ true
  | c :: cs =>
    let (next, done) := r.step ⟨before, some c⟩ c true
    done || search (some c) next cs

end Marked

/-- Whether the pattern matches some part of the text. -/
def Regex.occurs (r : Regex) (text : List Char) : Bool :=
  (Marked.ofRegex r).search none text

end Straggler.Pattern
