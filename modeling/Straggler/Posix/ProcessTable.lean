import Straggler.Posix.Stat
import Straggler.Process

/-!
# Entries of the process table

What the system keeps for each process, the arguments it was started with and a status line, and
the record that they make.
-/

namespace Straggler.Posix

set_option autoImplicit false

/-- How the arguments of a process are shown, or its name if it has none. -/
def commandText (arguments : List (List Char)) (name : List Char) : List Char :=
  let text := [' '].intercalate ((arguments.filter (!·.isEmpty)).map Unicode.trim)
  if text.isEmpty then name else text

/-- Each argument ends with a zero. -/
def argumentsOf (content : List Char) : List (List Char) :=
  match content with
  | [] => []
  | c :: cs =>
    if c = '\x00' then [] :: argumentsOf cs
    else
      match argumentsOf cs with
      | a :: as => (c :: a) :: as
      | [] => [[c]]

def nameOf (line : List Char) : List Char :=
  let fromOpening := (line.dropWhile (· != '(')).drop 1
  ((fromOpening.reverse.dropWhile (· != ')')).drop 1).reverse

/-- The number of the parent stands after the state. -/
def parentOf? (line : List Char) : Option Pid :=
  (afterLastParen line).bind fun rest =>
    let afterState := (rest.dropWhile Unicode.isBlank).dropWhile (!Unicode.isBlank ·)
    (String.ofList (firstWord afterState)).toNat?

structure Entry where
  pid : Pid
  arguments : String
  status : String
  deriving DecidableEq, Repr

namespace Entry

def record (e : Entry) : Record where
  pid := e.pid
  commandLine := .ofList (commandText (argumentsOf e.arguments.toList) (nameOf e.status.toList))

def isAlive (e : Entry) : Bool :=
  !isZombie e.status.toList

end Entry

end Straggler.Posix
