import Straggler.Pattern.Bracket
import Straggler.Pattern.Marked

/-!
# Reading a pattern

The text of a pattern is read once from left to right. The state holds the pieces of the innermost
open group and, beneath it, those of the groups around it. Flags last to the end of their group.
-/

namespace Straggler.Pattern

open Unicode

set_option autoImplicit false

/-- A finished part of the pattern. A setting of flags is a part that cannot be repeated. -/
structure Piece where
  regex : Regex
  height : Nat := 0
  repeatable : Bool := true
  deriving Repr

/-- The inside of a group: its finished branches and the pieces of the current one, both latest
first. -/
structure Level where
  branches : List Piece := []
  pieces : List Piece := []
  deriving Repr

structure Outline where
  flags : Flags := {}
  names : List (List Char) := []
  level : Level := {}
  outer : List (Level × Flags) := []
  deriving Repr

def maxHeight (ps : List Piece) : Nat :=
  ps.foldl (fun h p => Nat.max h p.height) 0

def sequence (pieces : List Piece) : Piece :=
  match pieces with
  | [] => { regex := .empty }
  | [p] => p
  | ps => { regex := .seqs (ps.reverse.map (·.regex)), height := maxHeight ps + 1 }

def Level.whole (l : Level) : Piece :=
  match l.branches with
  | [] => sequence l.pieces
  | bs =>
    let bs := sequence l.pieces :: bs
    { regex := .alts (bs.reverse.map (·.regex)), height := maxHeight bs + 1 }

def Outline.push (o : Outline) (p : Piece) : Outline :=
  { o with level := { o.level with pieces := p :: o.level.pieces } }

def Outline.branch (o : Outline) : Outline :=
  { o with level := { branches := sequence o.level.pieces :: o.level.branches } }

def Outline.open (o : Outline) (flags : Flags) : Outline :=
  { o with flags := flags, level := {}, outer := (o.level, o.flags) :: o.outer }

def Outline.close (o : Outline) : Except SyntaxError Outline :=
  match o.outer with
  | [] => .error .unopenedGroup
  | (level, flags) :: outer =>
    let whole := o.level.whole
    .ok ({ o with flags := flags, level := level, outer := outer }.push
      { regex := whole.regex, height := whole.height + 1 })

def Outline.repeated (o : Outline) (min : Nat) (max : Option Nat) : Except SyntaxError Outline :=
  match o.level.pieces with
  | p :: ps =>
    if p.repeatable then
      let p := { regex := p.regex.repeated min max, height := p.height + 1 }
      .ok { o with level := { o.level with pieces := p :: ps } }
    else .error .nothingToRepeat
  | [] => .error .nothingToRepeat

/-- A name starts with a letter or an underscore and goes on with those, digits, dots and square
brackets. -/
def nameCharacter (first : Bool) (c : Char) : Bool :=
  c = '_' || alphabetic.has c
    || !first && (c = '.' || c = '[' || c = ']' || number.has c)

def readGroupName (taken : List Char) : Reader (List Char)
  | [] => .error .invalidGroupName
  | c :: cs =>
    if c = '>' then
      if taken.isEmpty then .error .invalidGroupName else .ok (taken.reverse, cs)
    else if nameCharacter taken.isEmpty c then readGroupName (c :: taken) cs
    else .error .invalidGroupName

def Outline.openNamed (o : Outline) (cs : List Char) :
    Except SyntaxError (Outline × List Char) := do
  let (name, cs) ← readGroupName [] cs
  if o.names.contains name then .error .duplicateGroupName
  else return ({ o with names := name :: o.names }.open o.flags, cs)

/-- Reads what follows an opening parenthesis: a mark of its kind, or nothing special. -/
def readGroup (o : Outline) (cs : List Char) : Except SyntaxError (Outline × List Char) :=
  match o.flags.skip cs with
  | '?' :: '=' :: _ => .error .lookaround
  | '?' :: '!' :: _ => .error .lookaround
  | '?' :: '<' :: '=' :: _ => .error .lookaround
  | '?' :: '<' :: '!' :: _ => .error .lookaround
  | '?' :: 'P' :: '<' :: cs => o.openNamed cs
  | '?' :: '<' :: cs => o.openNamed cs
  | '?' :: cs => do
    let (flags, rest) ← o.flags.read [] cs
    match cs, rest with
    | ')' :: _, _ => .error .nothingToRepeat
    | _, ')' :: rest =>
      return ({ o with flags := flags }.push { regex := .empty, repeatable := false }, rest)
    | _, _ :: rest => return (o.open flags, rest)
    | _, [] => .error .unclosedGroup
  | cs => .ok (o.open o.flags, cs)

def readDigits (flags : Flags) (comment : Bool) (taken : List Char) :
    List Char → List Char × List Char
  | [] => (taken.reverse, [])
  | c :: cs =>
    if flags.verbose && comment then readDigits flags (c != '\n') taken cs
    else if flags.verbose && isBlank c then readDigits flags false taken cs
    else if flags.verbose && c = '#' then readDigits flags true taken cs
    else if c.isDigit then readDigits flags false (c :: taken) cs
    else (taken.reverse, c :: cs)

def readCount (flags : Flags) (cs : List Char) : Except SyntaxError (Option Nat × List Char) :=
  match readDigits flags false [] (cs.dropWhile isBlank) with
  | ([], cs) => .ok (none, cs)
  | (digits, cs) =>
    let n := digits.foldl (fun n d => n * 10 + (d.toNat - '0'.toNat)) 0
    if n < 0x100000000 then .ok (some n, flags.skip (cs.dropWhile isBlank))
    else .error .invalidRepetition

/-- A question mark after a repetition makes it prefer to be short. -/
def skipLazy : List Char → List Char
  | '?' :: cs => cs
  | cs => cs

/-- Reads the counts of a repetition after the opening brace. The lower count may not be left out.
-/
def readCounts (flags : Flags) (cs : List Char) :
    Except SyntaxError ((Nat × Option Nat) × List Char) := do
  let close (min : Nat) (max : Option Nat) (cs : List Char) :
      Except SyntaxError ((Nat × Option Nat) × List Char) :=
    match cs with
    | '}' :: cs =>
      if max.any (· < min) then .error .invalidRepetition
      else .ok ((min, max), skipLazy (flags.skip cs))
    | _ => .error .invalidRepetition
  match ← readCount flags (flags.skip cs) with
  | (none, _) => .error .invalidRepetition
  | (some min, ',' :: cs) =>
    match flags.skip cs with
    | '}' :: cs => close min none ('}' :: cs)
    | cs =>
      match ← readCount flags cs with
      | (some max, cs) => close min (some max) cs
      | (none, _) => .error .invalidRepetition
  | (some n, cs) => close n (some n) cs

def Outline.step (o : Outline) (c : Char) (cs : List Char) :
    Except SyntaxError (Outline × List Char) :=
  match c with
  | '(' => readGroup o cs
  | ')' => o.close.map (·, cs)
  | '|' => .ok (o.branch, cs)
  | '?' => (o.repeated 0 (some 1)).map (·, skipLazy cs)
  | '*' => (o.repeated 0 none).map (·, skipLazy cs)
  | '+' => (o.repeated 1 none).map (·, skipLazy cs)
  | '{' => do
    let ((min, max), cs) ← readCounts o.flags cs
    return (← o.repeated min max, cs)
  | '[' => do
    let (n, cs) ← readBracket o.flags cs
    return (o.push { regex := .set n.set, height := n.height }, cs)
  | '.' => (o.flags.dot).map fun s => (o.push { regex := .set s }, cs)
  | '^' => .ok (o.push { regex := .look (o.flags.condition .lineStart) }, cs)
  | '$' => .ok (o.push { regex := .look (o.flags.condition .lineEnd) }, cs)
  | '\\' => do
    let (atom, cs) ← readEscape o.flags cs
    return (o.push { regex := ← o.flags.atom atom }, cs)
  | c => (o.flags.char c false).map fun s => (o.push { regex := .set s }, cs)

/-- Each step consumes a character, so the length of the text bounds the steps. -/
def Outline.run : Nat → Outline → List Char → Except SyntaxError Outline
  | 0, o, _ => .ok o
  | n + 1, o, cs =>
    match o.flags.skip cs with
    | [] => .ok o
    | c :: cs => do
      let (o, cs) ← o.step c cs
      o.run n cs

/-- How deeply groups, repetitions, classes and their like may be nested. -/
def heightLimit : Nat :=
  250

def Regex.parse (text : List Char) : Except SyntaxError Regex := do
  let o ← ({} : Outline).run text.length text
  let whole := o.level.whole
  if !o.outer.isEmpty then .error .unclosedGroup
  else if heightLimit < whole.height then .error .nestedTooDeeply
  else return whole.regex

end Straggler.Pattern
