import Straggler.Unicode.Blank

/-!
# Signals

The thirty-one standard signals, their numbers and names, and the reader of a name as people write
it: in either case, with or without its first three letters, with blanks around it.
-/

namespace Straggler

set_option autoImplicit false

inductive Signal
  | hup | int | quit | ill | trap | abrt | bus | fpe | kill | usr1 | segv | usr2 | pipe | alrm
  | term | stkflt | chld | cont | stop | tstp | ttin | ttou | urg | xcpu | xfsz | vtalrm | prof
  | winch | io | pwr | sys
  deriving DecidableEq, Repr

namespace Signal

/-- In the order of their numbers, which start at one. -/
def all : List Signal :=
  [hup, int, quit, ill, trap, abrt, bus, fpe, kill, usr1, segv, usr2, pipe, alrm, term, stkflt,
    chld, cont, stop, tstp, ttin, ttou, urg, xcpu, xfsz, vtalrm, prof, winch, io, pwr, sys]

def number : Signal → Nat
  | hup => 1 | int => 2 | quit => 3 | ill => 4 | trap => 5 | abrt => 6 | bus => 7 | fpe => 8
  | kill => 9 | usr1 => 10 | segv => 11 | usr2 => 12 | pipe => 13 | alrm => 14 | term => 15
  | stkflt => 16 | chld => 17 | cont => 18 | stop => 19 | tstp => 20 | ttin => 21 | ttou => 22
  | urg => 23 | xcpu => 24 | xfsz => 25 | vtalrm => 26 | prof => 27 | winch => 28 | io => 29
  | pwr => 30 | sys => 31

def shortName : Signal → String
  | hup => "HUP" | int => "INT" | quit => "QUIT" | ill => "ILL" | trap => "TRAP" | abrt => "ABRT"
  | bus => "BUS" | fpe => "FPE" | kill => "KILL" | usr1 => "USR1" | segv => "SEGV"
  | usr2 => "USR2" | pipe => "PIPE" | alrm => "ALRM" | term => "TERM" | stkflt => "STKFLT"
  | chld => "CHLD" | cont => "CONT" | stop => "STOP" | tstp => "TSTP" | ttin => "TTIN"
  | ttou => "TTOU" | urg => "URG" | xcpu => "XCPU" | xfsz => "XFSZ" | vtalrm => "VTALRM"
  | prof => "PROF" | winch => "WINCH" | io => "IO" | pwr => "PWR" | sys => "SYS"

def name (s : Signal) : String :=
  "SIG" ++ s.shortName

def ofName? (name : String) : Option Signal :=
  all.find? (·.name == name)

def ofNumber? (n : Nat) : Option Signal :=
  all.find? (·.number == n)

theorem mem_all (s : Signal) : s ∈ all := by
  cases s <;> decide

theorem ofNumber?_number (s : Signal) : ofNumber? s.number = some s := by
  cases s <;> rfl

def fullName (written : List Char) : List Char :=
  let word := (Unicode.trim written).map Char.toUpper
  if ['S', 'I', 'G'].isPrefixOf word then word else 'S' :: 'I' :: 'G' :: word

def parse? (written : String) : Option Signal :=
  ofName? (.ofList (fullName written.toList))

end Signal

end Straggler
