import Straggler.Signal

/-!
# The trap

Guards the one passage from running into cleanup: the first signal trips the trap, and every later
one is ignored.
-/

namespace Straggler

set_option autoImplicit false

inductive Trap
  | running
  | signalReceived (s : Signal)
  | cleaningUp (s : Signal)
  | exited (code : Int)
  deriving DecidableEq, Repr

namespace Trap

/-- Records a signal. Says whether this one tripped the trap. -/
def trip (t : Trap) (s : Signal) : Bool × Trap :=
  match t with
  | running => (true, signalReceived s)
  | _ => (false, t)

def beginCleanup (t : Trap) : Option Signal × Trap :=
  match t with
  | signalReceived s => (some s, cleaningUp s)
  | _ => (none, t)

def exit (_ : Trap) (code : Int) : Trap :=
  exited code

def text : Trap → String
  | running => "Running"
  | signalReceived s => "SignalReceived(" ++ s.name ++ ")"
  | cleaningUp s => "CleaningUp(" ++ s.name ++ ")"
  | exited code => "Exited(" ++ toString code ++ ")"

end Trap

end Straggler
