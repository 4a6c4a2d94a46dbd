import Straggler.Pattern.Escape

/-!
# Bracketed character classes

A class between square brackets: single characters, ranges, escapes, named classes and brackets
within brackets, joined by juxtaposition (union) and by the doubled signs of intersection,
difference and symmetric difference, which group to the left.
-/

namespace Straggler.Pattern

open Unicode

set_option autoImplicit false

def posixClass? : String → Option CharSet
  | "alnum" => some (.any [.range '0' '9', .range 'A' 'Z', .range 'a' 'z'])
  | "alpha" => some (.any [.range 'A' 'Z', .range 'a' 'z'])
  | "ascii" => some (.ranges [(0, 0x7F)])
  | "blank" => some (.any [.single '\t', .single ' '])
  | "cntrl" => some (.ranges [(0, 0x1F), (0x7F, 0x7F)])
  | "digit" => some (.range '0' '9')
  | "graph" => some (.range '!' '~')
  | "lower" => some (.range 'a' 'z')
  | "print" => some (.range ' ' '~')
  | "punct" => some (.ranges [(0x21, 0x2F), (0x3A, 0x40), (0x5B, 0x60), (0x7B, 0x7E)])
  | "space" => some (.ranges [(0x9, 0xD), (0x20, 0x20)])
  | "upper" => some (.range 'A' 'Z')
  | "word" => some asciiWordCharacter
  | "xdigit" => some (.any [.range '0' '9', .range 'A' 'F', .range 'a' 'f'])
  | _ => none

/-- Reads a named class after its opening bracket: colons around a name that may be negated. -/
def readPosix? : List Char → Option ((CharSet × Bool) × List Char)
  | ':' :: cs =>
    let (negated, cs) := match cs with
      | '^' :: cs => (true, cs)
      | cs => (false, cs)
    match posixClass? (.ofList (cs.takeWhile (· != ':'))), cs.dropWhile (· != ':') with
    | some s, ':' :: ']' :: cs => some ((s, negated), cs)
    | _, _ => none
  | _ => none

inductive SetOperator
  | intersection
  | difference
  | symmetricDifference
  deriving DecidableEq, Repr

def SetOperator.apply : SetOperator → CharSet → CharSet → CharSet
  | intersection, s, t => .inter s t
  | difference, s, t => .diff s t
  | symmetricDifference, s, t => .symmDiff s t

/-- A set together with how deeply its expression is nested. -/
structure Nested where
  set : CharSet
  height : Nat := 0
  deriving Repr

structure Items where
  sets : List CharSet := []
  height : Nat := 0
  deriving Repr

def Items.add (items : Items) (n : Nested) : Items :=
  { sets := n.set :: items.sets, height := Nat.max n.height items.height }

def Items.addSet (items : Items) (s : CharSet) : Items :=
  items.add { set := s }

def Items.nested (items : Items) : Nested :=
  match items.sets with
  | [] => { set := .empty }
  | [s] => { set := s, height := items.height }
  | sets => { set := .any sets.reverse, height := items.height + 1 }

/-- What surrounds the operand being read: an operator with its left side, or an open bracket with
the items before it. -/
inductive Pending
  | operator (op : SetOperator) (left : Nested)
  | bracket (negated : Bool) (before : Items)
  deriving Repr

namespace Flags

/-- One item. Outside of Unicode a class holds seven-bit characters only. -/
def classItem (flags : Flags) : Atom → Except SyntaxError CharSet
  | .char c _ =>
    if !flags.unicode && 0x7F < c.toNat then .error .notText else .ok (.single c)
  | .perl p negated => flags.perl p negated
  | .property name negated => flags.property name negated
  | .condition _ => .error .notInBracket

def classRange (flags : Flags) : Atom → Atom → Except SyntaxError CharSet
  | .char lo _, .char hi _ =>
    if hi < lo then .error .invalidRange
    else if !flags.unicode && 0x7F < hi.toNat then .error .notText
    else .ok (.range lo hi)
  | _, _ => .error .invalidRange

end Flags

def combine (flags : Flags) (op : SetOperator) (left right : Nested) : Nested :=
  { set := op.apply (flags.fold left.set) (flags.fold right.set)
    height := Nat.max left.height right.height + 1 }

/-- Joins the finished operand to the operator that waits for it, if one does. -/
def reduce (flags : Flags) (right : Nested) : List Pending → Nested × List Pending
  | .operator op left :: rest => (combine flags op left right, rest)
  | pending => (right, pending)

def readItem (flags : Flags) : Reader Atom
  | [] => .error .unclosedBracket
  | '\\' :: cs => readEscape flags cs
  | c :: cs => .ok (.char c false, cs)

/-- One item or a range of two. A hyphen before a closing bracket or another hyphen makes no range.
-/
def readSpan (flags : Flags) (cs : List Char) : Except SyntaxError (CharSet × List Char) := do
  let (first, cs) ← readItem flags cs
  match flags.skip cs with
  | '-' :: after =>
    if flags.peek after = some ']' || flags.peek after = some '-' then
      return (← flags.classItem first, '-' :: after)
    let (last, cs) ← readItem flags (flags.skip after)
    return (← flags.classRange first last, cs)
  | cs => return (← flags.classItem first, cs)

/-- The state of the reader. At the opening of a bracket hyphens stand for themselves, and so does
a closing bracket that comes first. -/
structure Inside where
  opening : Bool
  items : Items
  pending : List Pending
  deriving Repr

def Inside.enter (flags : Flags) (before : Items) (pending : List Pending) (cs : List Char) :
    Inside × List Char :=
  let (negated, cs) := match flags.skip cs with
    | '^' :: cs => (true, cs)
    | cs => (false, cs)
  ({ opening := true, items := {}, pending := .bracket negated before :: pending }, cs)

def Inside.add (s : Inside) (n : Nested) : Inside :=
  { s with opening := false, items := s.items.add n }

def Inside.operator (flags : Flags) (s : Inside) (op : SetOperator) : Inside :=
  let (left, pending) := reduce flags s.items.nested s.pending
  { opening := false, items := {}, pending := .operator op left :: pending }

/-- Leaves a bracket. The outermost one is the whole class. -/
def Inside.leave (flags : Flags) (s : Inside) : Except SyntaxError (Nested ⊕ Inside) :=
  match reduce flags s.items.nested s.pending with
  | (whole, .bracket negated before :: pending) => do
    let n := { set := ← flags.negate negated (flags.fold whole.set), height := whole.height + 1 }
    match pending with
    | [] => return .inl n
    | pending => return .inr { opening := false, items := before.add n, pending := pending }
  | _ => .error .unclosedBracket

/-- Reads up to the end of the outermost bracket. Each step consumes a character, so the length of
the text bounds the steps. -/
def readInside (flags : Flags) : Nat → Inside → Reader Nested
  | 0, _, _ => .error .unclosedBracket
  | n + 1, s, cs =>
    match flags.skip cs with
    | [] => .error .unclosedBracket
    | c :: rest =>
      if s.opening && c = '-' then
        readInside flags n { s with items := s.items.addSet (.single '-') } rest
      else if s.opening && s.items.sets.isEmpty && c = ']' then
        readInside flags n (s.add { set := .single ']' }) rest
      else
        match c, rest with
        | '[', rest =>
          match readPosix? rest with
          | some ((set, negated), rest) => do
            let set ← flags.negate negated (flags.fold set)
            readInside flags n (s.add { set := set }) rest
          | none =>
            let (s, rest) := Inside.enter flags s.items s.pending rest
            readInside flags n s rest
        | ']', rest => do
          match ← s.leave flags with
          | .inl whole => return (whole, rest)
          | .inr s => readInside flags n s rest
        | '&', '&' :: rest => readInside flags n (s.operator flags .intersection) rest
        | '-', '-' :: rest => readInside flags n (s.operator flags .difference) rest
        | '~', '~' :: rest => readInside flags n (s.operator flags .symmetricDifference) rest
        | c, rest => do
          let (set, rest) ← readSpan flags (c :: rest)
          readInside flags n (s.add { set := set }) rest

def readBracket (flags : Flags) (cs : List Char) : Except SyntaxError (Nested × List Char) :=
  let (s, cs) := Inside.enter flags {} [] cs
  readInside flags (cs.length + 1) s cs

end Straggler.Pattern
