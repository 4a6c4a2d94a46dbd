import Straggler.Pattern.Engine

/-!
# The size of an automaton

The engine of the program, which counts the states of an automaton on bytes. There is one for each
byte of a character, every range of a set counts as much as its last character, and what is
repeated counts once for each time that it has to be written out. This is an estimate: what is
proved of patterns holds for every engine.
-/

namespace Straggler

set_option autoImplicit false

def Unicode.CharSet.states : CharSet → Nat
  | ranges rs => (rs.map fun r => (Char.ofNat r.2).utf8Size).sum
  -- What is left out splits what is kept, which ends with the last character of all.
  | compl s => s.states + 4
  | union s t => s.states + t.states
  | inter s t => Nat.min s.states t.states
  | folded _ s => s.states

namespace Pattern

def Regex.states : Regex → Nat
  | empty => 0
  | set s => s.states
  | look _ => 1
  | seq a b => a.states + b.states
  | alt a b => a.states + b.states + 1
  | times r min none => Nat.max min 1 * r.states + 1
  | times r min (some max) => max * r.states + (max - min)

def stateSize : Nat :=
  32

def sizeLimit : Nat :=
  10 * 1024 * 1024

instance : Engine where
  oversized := fun text =>
    match Regex.parse text with
    | .ok r => sizeLimit < stateSize * r.states
    | .error _ => false

end Pattern

end Straggler
