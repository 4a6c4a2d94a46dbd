import Straggler.Pattern.Flags
import Straggler.Posix.SystemError

/-!
# Errors

What can go wrong, by its cause. Only an unreadable process table stops a cascade; the others come
up before one starts, or are turned into an exit code.
-/

namespace Straggler

set_option autoImplicit false

inductive PatternFault
  | empty
  | refused (e : Pattern.SyntaxError)
  | described (reason : String)
  deriving DecidableEq, Repr

def PatternFault.reason : PatternFault → String
  | empty => "empty pattern would match every process"
  | refused e => e.message
  | described reason => reason

inductive ConfigFault
  | unreadable (path : String) (cause : Posix.SystemError)
  | malformed (reason : String)
  | described (reason : String)
  deriving DecidableEq, Repr

def ConfigFault.reason : ConfigFault → String
  | unreadable path cause => path ++ ": " ++ cause.message
  | malformed reason => reason
  | described reason => reason

inductive Error
  | processTable (reason : String)
  | spawn (command : String) (cause : Posix.SystemError)
  | invalidPattern (category : String) (fault : PatternFault)
  | invalidSignal (name : String)
  | config (fault : ConfigFault)
  deriving DecidableEq, Repr

namespace Error

def message : Error → String
  | processTable reason => "Failed to enumerate the process table: " ++ reason
  | spawn command cause => "Failed to spawn `" ++ command ++ "`: " ++ cause.message
  | invalidPattern category fault =>
    "Invalid pattern for category `" ++ category ++ "`: " ++ fault.reason
  | invalidSignal name => "Unknown signal `" ++ name ++ "`"
  | config fault => "Config error: " ++ fault.reason

def isFatal : Error → Bool
  | processTable _ => true
  | _ => false

/-- What a shell reports when a command is not found. -/
def notFoundCode : Nat :=
  127

/-- What a shell reports when a command is found but cannot be started. -/
def cannotExecuteCode : Nat :=
  126

def spawnCode : Error → Nat
  | spawn _ cause => if cause.kind = .notFound then notFoundCode else cannotExecuteCode
  | _ => cannotExecuteCode

end Error

end Straggler
