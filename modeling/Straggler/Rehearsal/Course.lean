import Straggler.Signal

/-!
# Courses of commands

What a command does from its start to its end, as far as anybody outside can tell: what it writes,
which signals it raises, how long it waits, and the exit code it ends with.
-/

namespace Straggler.Rehearsal

set_option autoImplicit false

inductive Stream
  | out
  | err
  deriving DecidableEq, Repr

inductive Act
  | write (target : Stream) (text : String)
  | signalSelf (s : Signal)
  | signalParent (s : Signal)
  | ignore (s : Signal)
  | wait (ms : Nat)
  /-- Goes on for ever. -/
  | linger
  /-- Carries on as another command. -/
  | become (arguments : List String)
  deriving DecidableEq, Repr

structure Course where
  acts : List Act
  code : Nat
  deriving DecidableEq, Repr

namespace Course

def ofCode (code : Nat) : Course where
  acts := []
  code := code

def printing (text : String) : Course where
  acts := [.write .out text]
  code := 0

def complaining (text : String) (code : Nat) : Course where
  acts := [.write .err text]
  code := code

end Course

/-- Where the two streams of a command lead, if they lead anywhere. -/
structure Outlets where
  out : Option Stream := some .out
  err : Option Stream := some .err
  deriving DecidableEq, Repr

def Outlets.of (o : Outlets) : Stream → Option Stream
  | .out => o.out
  | .err => o.err

def Outlets.set (o : Outlets) (s : Stream) (target : Option Stream) : Outlets :=
  match s with
  | .out => { o with out := target }
  | .err => { o with err := target }

/-- What is written to a stream that leads nowhere is lost. -/
def Act.through (o : Outlets) : Act → Option Act
  | .write target text => (o.of target).map (.write · text)
  | a => some a

def Course.through (o : Outlets) (c : Course) : Course :=
  { c with acts := c.acts.filterMap (·.through o) }

end Straggler.Rehearsal
