/-!
# Characters by number

Hexadecimal digits, and the character of a number.
-/

namespace Straggler.Unicode

set_option autoImplicit false

def hexValue? (c : Char) : Option Nat :=
  if c.isDigit then some (c.toNat - '0'.toNat)
  else if 'a' ≤ c && c ≤ 'f' then some (c.toNat - 'a'.toNat + 10)
  else if 'A' ≤ c && c ≤ 'F' then some (c.toNat - 'A'.toNat + 10)
  else none

/-- There is none for surrogates and beyond the last character. -/
def charOfNat? (n : Nat) : Option Char :=
  if h : n.isValidChar then some (.ofNatAux n h) else none

theorem charOfNat?_toNat (c : Char) : charOfNat? c.toNat = some c := by
  have h : c.toNat.isValidChar := c.valid
  rw [charOfNat?, dif_pos h]
  rfl

end Straggler.Unicode
