import Straggler.Unicode.Blank

/-!
# Flags of a pattern

The switches that change how the rest of a group is read, and the reader of their letters.
-/

namespace Straggler.Pattern

set_option autoImplicit false

inductive SyntaxError
  | unclosedGroup
  | unopenedGroup
  | unclosedBracket
  | invalidRange
  | notInBracket
  | invalidFlags
  | lookaround
  | invalidGroupName
  | duplicateGroupName
  | nothingToRepeat
  | invalidRepetition
  | invalidEscape
  | unknownProperty
  | notText
  | nestedTooDeeply
  | tooLarge
  deriving DecidableEq, Repr

def SyntaxError.message : SyntaxError → String
  | unclosedGroup => "unclosed group"
  | unopenedGroup => "unopened group"
  | unclosedBracket => "unclosed character class"
  | invalidRange => "invalid character class range"
  | notInBracket => "not allowed in a character class"
  | invalidFlags => "invalid flags"
  | lookaround => "look-around is not supported"
  | invalidGroupName => "invalid capture group name"
  | duplicateGroupName => "duplicate capture group name"
  | nothingToRepeat => "repetition operator missing expression"
  | invalidRepetition => "invalid repetition count"
  | invalidEscape => "unrecognized escape sequence"
  | unknownProperty => "Unicode property not found"
  | notText => "pattern can match invalid UTF-8"
  | nestedTooDeeply => "pattern is nested too deeply"
  | tooLarge => "compiled pattern is too large"

abbrev Reader (α : Type) :=
  List Char → Except SyntaxError (α × List Char)

structure Flags where
  caseless : Bool := false
  multiLine : Bool := false
  dotAll : Bool := false
  swapGreed : Bool := false
  unicode : Bool := true
  crlf : Bool := false
  verbose : Bool := false
  deriving DecidableEq, Repr

def Flags.assign (flags : Flags) (value : Bool) : Char → Option Flags
  | 'i' => some { flags with caseless := value }
  | 'm' => some { flags with multiLine := value }
  | 's' => some { flags with dotAll := value }
  | 'U' => some { flags with swapGreed := value }
  | 'u' => some { flags with unicode := value }
  | 'R' => some { flags with crlf := value }
  | 'x' => some { flags with verbose := value }
  | _ => none

/-- Reads letters up to the colon or parenthesis that ends them. A letter may stand once, whether
set or cleared, and so may the sign that clears the letters after it; the sign may not come last.
-/
def Flags.read (flags : Flags) (seen : List Char) : Reader Flags
  | [] => .error .invalidFlags
  | c :: cs =>
    if c = ':' || c = ')' then
      if seen.head? = some '-' then .error .invalidFlags else .ok (flags, c :: cs)
    else if seen.contains c then .error .invalidFlags
    else if c = '-' then flags.read (c :: seen) cs
    else
      match flags.assign (!seen.contains '-') c with
      | some flags => flags.read (c :: seen) cs
      | none => .error .invalidFlags

/-- In a verbose pattern blanks count for nothing, nor does a comment up to the end of its line. -/
def skipBlanks (comment : Bool) : List Char → List Char
  | [] => []
  | c :: cs =>
    if comment then skipBlanks (c != '\n') cs
    else if Unicode.isBlank c then skipBlanks false cs
    else if c = '#' then skipBlanks true cs
    else c :: cs

def Flags.skip (flags : Flags) (cs : List Char) : List Char :=
  if flags.verbose then skipBlanks false cs else cs

/-- The next character when it is the sign of a range: blanks are passed over, and so is the sign
of a comment but not its text. -/
def Flags.peek (flags : Flags) (cs : List Char) : Option Char :=
  if flags.verbose then
    match cs.dropWhile Unicode.isBlank with
    | '#' :: rest => (rest.dropWhile Unicode.isBlank).head? <|> cs.head?
    | rest => rest.head? <|> cs.head?
  else cs.head?

end Straggler.Pattern
