import Straggler.Unicode.Lookup

/-!
# Regular expressions

The patterns that a category may use, as a tree, and what each of them matches. A pattern is
searched for anywhere in a text and only the existence of a match counts, so the tree knows
neither captures nor whether a repetition prefers to be long or short.
-/

namespace Straggler.Pattern

open Unicode

set_option autoImplicit false

/-- Conditions on a place in the text. They consume nothing. -/
inductive Look
  | textStart
  | textEnd
  | lineStart (crlf : Bool)
  | lineEnd (crlf : Bool)
  | boundary (word : CharSet)
  | noBoundary (word : CharSet)
  | wordStart (word : CharSet)
  | wordEnd (word : CharSet)
  | wordStartHalf (word : CharSet)
  | wordEndHalf (word : CharSet)
  deriving DecidableEq, Repr

structure Place where
  before : Option Char
  after : Option Char
  deriving DecidableEq, Repr

/-- With carriage returns as line ends, the pair of a return and a newline is a single end. -/
def Look.holds (p : Place) : Look → Bool
  | textStart => p.before.isNone
  | textEnd => p.after.isNone
  | lineStart false => p.before.all (· == '\n')
  | lineStart true =>
    p.before.all fun c => c == '\n' || c == '\r' && p.after != some '\n'
  | lineEnd false => p.after.all (· == '\n')
  | lineEnd true =>
    p.after.all fun c => c == '\r' || c == '\n' && p.before != some '\r'
  | boundary w => p.before.any w.has != p.after.any w.has
  | noBoundary w => p.before.any w.has == p.after.any w.has
  | wordStart w => !p.before.any w.has && p.after.any w.has
  | wordEnd w => p.before.any w.has && !p.after.any w.has
  | wordStartHalf w => !p.before.any w.has
  | wordEndHalf w => !p.after.any w.has

inductive Regex
  | empty
  | set (s : CharSet)
  | look (l : Look)
  | seq (a b : Regex)
  | alt (a b : Regex)
  | times (r : Regex) (min : Nat) (max : Option Nat)
  deriving DecidableEq, Repr

namespace Regex

def seqs : List Regex → Regex
  | [] => empty
  | [r] => r
  | r :: rs => seq r (seqs rs)

def alts : List Regex → Regex
  | [] => set .empty
  | [r] => r
  | r :: rs => alt r (alts rs)

/-- Matches nothing but the empty text, wherever it matches. -/
def zeroWidth : Regex → Bool
  | empty => true
  | set _ => false
  | look _ => true
  | seq a b => a.zeroWidth && b.zeroWidth
  | alt a b => a.zeroWidth && b.zeroWidth
  | times r _ max => r.zeroWidth || max == some 0

/-- Repeating a condition is the same as asking for it once. -/
def repeated (r : Regex) (min : Nat) (max : Option Nat) : Regex :=
  if r.zeroWidth then times r (Nat.min min 1) (some (max.elim 1 (Nat.min · 1)))
  else times r min max

/-- The place after `pre`, where `post` follows. -/
def placeAt (pre post : List Char) : Place :=
  ⟨pre.getLast?, post.head?⟩

/-- The pattern matches the middle part of a text, between what comes before and after it. -/
inductive Matches : Regex → List Char → List Char → List Char → Prop
  | empty {pre post : List Char} : Matches empty pre [] post
  | set {s : CharSet} {pre post : List Char} {c : Char} (h : s.has c) : Matches (set s) pre [c] post
  | look {l : Look} {pre post : List Char} (h : l.holds (placeAt pre post)) :
      Matches (look l) pre [] post
  | seq {a b : Regex} {pre u v post : List Char} (ha : Matches a pre u (v ++ post))
      (hb : Matches b (pre ++ u) v post) : Matches (seq a b) pre (u ++ v) post
  | altLeft {a b : Regex} {pre u post : List Char} (h : Matches a pre u post) :
      Matches (alt a b) pre u post
  | altRight {a b : Regex} {pre u post : List Char} (h : Matches b pre u post) :
      Matches (alt a b) pre u post
  | stop {r : Regex} {max : Option Nat} {pre post : List Char} : Matches (times r 0 max) pre [] post
  | again {r : Regex} {min : Nat} {max : Option Nat} {pre u v post : List Char}
      (more : max ≠ some 0) (hr : Matches r pre u (v ++ post))
      (hs : Matches (times r (min - 1) (max.map (· - 1))) (pre ++ u) v post) :
      Matches (times r min max) pre (u ++ v) post

/-- Some part of the text is matched. -/
def Occurs (r : Regex) (text : List Char) : Prop :=
  ∃ pre mid post, text = pre ++ mid ++ post ∧ r.Matches pre mid post

end Regex

end Straggler.Pattern
