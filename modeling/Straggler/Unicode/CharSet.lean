import Straggler.Unicode.Folding

/-!
# Sets of characters

A set is an expression over ranges of code points: complements, unions, intersections and closures
under case folding are kept as written, and membership is read off the expression. So each
operation has its law by definition, and nothing has to be merged or sorted.
-/

namespace Straggler.Unicode

set_option autoImplicit false

/-- The ranges hold both of their ends and are in ascending order. -/
inductive CharSet
  | ranges (rs : List (Nat × Nat))
  | compl (s : CharSet)
  | union (s t : CharSet)
  | inter (s t : CharSet)
  | folded (f : Folding) (s : CharSet)
  deriving DecidableEq, Repr

namespace CharSet

/-- Since the ranges ascend, the search ends at the first one that starts above the number. -/
def inRanges (n : Nat) : List (Nat × Nat) → Bool
  | [] => false
  | (lo, hi) :: rs => lo ≤ n && (n ≤ hi || inRanges n rs)

def has : CharSet → Char → Bool
  | ranges rs, c => inRanges c.toNat rs
  | compl s, c => !s.has c
  | union s t, c => s.has c || t.has c
  | inter s t, c => s.has c && t.has c
  | folded f s, c => (f.orbit c).any s.has

def empty : CharSet :=
  ranges []

def all : CharSet :=
  ranges [(0, 0x10FFFF)]

def range (lo hi : Char) : CharSet :=
  ranges [(lo.toNat, hi.toNat)]

def single (c : Char) : CharSet :=
  range c c

def any : List CharSet → CharSet
  | [] => empty
  | s :: ss => union s (any ss)

def diff (s t : CharSet) : CharSet :=
  inter s (compl t)

def symmDiff (s t : CharSet) : CharSet :=
  diff (union s t) (inter s t)

@[simp] theorem has_empty (c : Char) : empty.has c = false := rfl

@[simp] theorem has_compl (s : CharSet) (c : Char) : (compl s).has c = !s.has c := rfl

@[simp] theorem has_union (s t : CharSet) (c : Char) :
    (union s t).has c = (s.has c || t.has c) := rfl

@[simp] theorem has_inter (s t : CharSet) (c : Char) :
    (inter s t).has c = (s.has c && t.has c) := rfl

@[simp] theorem has_any (ss : List CharSet) (c : Char) :
    (any ss).has c = ss.any (·.has c) := by
  induction ss with
  | nil => rfl
  | cons s ss ih => simp [any, ih]

@[simp] theorem has_range (lo hi c : Char) :
    (range lo hi).has c = (decide (lo.toNat ≤ c.toNat) && decide (c.toNat ≤ hi.toNat)) := by
  simp [range, has, inRanges]

@[simp] theorem has_single (a c : Char) : (single a).has c = decide (c = a) := by
  have : c = a ↔ a.toNat ≤ c.toNat ∧ c.toNat ≤ a.toNat := by
    constructor
    · rintro rfl
      simp
    · rintro ⟨h, h'⟩
      exact Char.ext (UInt32.toNat_inj.mp (Nat.le_antisymm h' h))
  simp [single, this]

/-- The numbers read so far of one entry of a table, if one has begun. -/
structure Entry where
  first : Option Nat := none
  last : Option Nat := none
  current : Option Nat := none

/-- The ranges an entry stands for: one character, a range, or every so many characters of one. -/
def Entry.ranges (e : Entry) : List (Nat × Nat) :=
  match e.first, e.last, e.current with
  | _, _, none => []
  | none, _, some c => [(c, c)]
  | some lo, none, some hi => [(lo, hi)]
  | some lo, some hi, some gap =>
    (List.range ((hi - lo) / gap + 1)).map fun i => (lo + i * gap, lo + i * gap)

def hexDigit (c : Char) : Nat :=
  if c.isDigit then c.toNat - '0'.toNat else c.toNat - 'A'.toNat + 10

def readTable (e : Entry) : List Char → List (Nat × Nat)
  | [] => e.ranges
  | '-' :: cs => readTable { first := e.current } cs
  | '/' :: cs => readTable { first := e.first, last := e.current } cs
  | c :: cs =>
    if c.isWhitespace then e.ranges ++ readTable {} cs
    else readTable { e with current := some (e.current.getD 0 * 16 + hexDigit c) } cs

/-- Reads a table of hexadecimal code points: single ones, ranges (41-5A), and ranges of which
only every so manyth character counts (100-136/2). Blanks and line ends stand between them. -/
def ofText (text : String) : CharSet :=
  .ranges (readTable {} text.toList)

end CharSet

end Straggler.Unicode
