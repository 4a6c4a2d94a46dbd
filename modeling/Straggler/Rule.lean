import Straggler.Error
import Straggler.Pattern.Engine
import Straggler.Process

/-!
# Rules and categories

A rule decides on the full command line of a process, by a text it holds or by a pattern it
matches. A category is a rule with a name; the processes it matches are escalated together.
-/

namespace Straggler

set_option autoImplicit false

inductive RuleKind
  | regex
  | substring
  deriving DecidableEq, Repr

def RuleKind.name : RuleKind → String
  | regex => "regex"
  | substring => "substring"

/-- A pattern is kept with its text as written. -/
inductive Rule
  | substring (text : String)
  | regex (source : String) (pattern : Pattern.Regex)
  deriving DecidableEq, Repr

/-- Whether the text holds the other one as a contiguous piece. -/
def holdsText (needle : List Char) : List Char → Bool
  | [] => needle.isEmpty
  | c :: cs => needle.isPrefixOf (c :: cs) || holdsText needle cs

namespace Rule

def kind : Rule → RuleKind
  | substring _ => .substring
  | regex _ _ => .regex

def source : Rule → String
  | substring text => text
  | regex source _ => source

def isMatch : Rule → String → Bool
  | substring text, line => holdsText text.toList line.toList
  | regex _ pattern, line => pattern.occurs line.toList

/-- Makes a rule of a written pattern. The empty one is refused, since every process matches it. -/
def compile [Pattern.Engine] (category pattern : String) (kind : RuleKind) : Except Error Rule :=
  if pattern.isEmpty then .error (.invalidPattern category .empty)
  else
    match kind with
    | .substring => .ok (substring pattern)
    | .regex =>
      match Pattern.Regex.read pattern.toList with
      | .ok r => .ok (.regex pattern r)
      | .error e => .error (.invalidPattern category (.refused e))

def discover (r : Rule) (s : Snapshot) : List Record :=
  s.records.toList.filter fun record => r.isMatch record.commandLine

end Rule

structure Category where
  name : String
  rule : Rule
  deriving DecidableEq, Repr

end Straggler
