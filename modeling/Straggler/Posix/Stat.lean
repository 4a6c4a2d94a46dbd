import Straggler.Unicode.Blank

/-!
# States of a process

The state letter in the status line of a process. The name of the process stands in parentheses
before it and may itself hold parentheses and blanks, so the letter is what follows the last
closing one.
-/

namespace Straggler.Posix

set_option autoImplicit false

def afterLastParen (line : List Char) : Option (List Char) :=
  if line.contains ')' then some (line.reverse.takeWhile (· != ')')).reverse else none

def firstWord (text : List Char) : List Char :=
  (text.dropWhile Unicode.isBlank).takeWhile (!Unicode.isBlank ·)

/-- Exited, but not yet collected by its parent. -/
def isZombie (line : List Char) : Bool :=
  match afterLastParen line with
  | some rest => firstWord rest == ['Z'] || firstWord rest == ['X']
  | none => false

end Straggler.Posix
