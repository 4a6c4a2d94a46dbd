/-!
# Wait statuses

The status word that a parent collects from a child: how the child ended, in one 32-bit number,
and the exit code that a shell makes of it.
-/

namespace Straggler.Posix

set_option autoImplicit false

structure WaitStatus where
  raw : Int32
  deriving DecidableEq, Repr

namespace WaitStatus

/-- The low seven bits: zero for an exit, all ones for a stop, else the signal that killed. -/
def low (s : WaitStatus) : Int32 :=
  s.raw &&& 0x7F

def exitByte (s : WaitStatus) : Nat :=
  ((s.raw >>> 8) &&& 0xFF).toInt.toNat

def ofExit (code : Nat) : WaitStatus :=
  ⟨Int32.ofNat (code % 256 * 256)⟩

def ofSignal (number : Nat) : WaitStatus :=
  ⟨Int32.ofNat (number % 128)⟩

/-- The exit byte of an ordinary exit, 128 more than the signal of a violent one, and 1 for a word
that says neither. -/
def exitCode (s : WaitStatus) : Nat :=
  if s.low = 0 then s.exitByte
  else if s.low = 0x7F then 1
  else 128 + s.low.toInt.toNat

end WaitStatus

end Straggler.Posix
