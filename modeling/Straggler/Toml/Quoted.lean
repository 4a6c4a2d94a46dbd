import Straggler.Toml.Value
import Straggler.Unicode.Hex

/-!
# Quoted strings

The four kinds of strings: with or without escapes, on one line or over several. Each reader walks
over the characters once, with a mode that says what the next one means.
-/

namespace Straggler.Toml

set_option autoImplicit false

open Unicode (hexValue? charOfNat?)

def unescape? : Char → Option Char
  | 'b' => some '\x08'
  | 't' => some '\t'
  | 'n' => some '\n'
  | 'f' => some '\x0c'
  | 'r' => some '\r'
  | '"' => some '"'
  | '\\' => some '\\'
  | _ => none

inductive Mode
  | plain
  | quotes (seen : Nat)
  | escaped
  | code (left value : Nat)
  | carriage
  | foldBlank
  | foldCarriage
  | fold
  deriving DecidableEq, Repr

/-- Which strings are read: their quote, whether a backslash is special, whether they may run over
several lines. -/
structure Style where
  quote : Char
  escapes : Bool
  multiline : Bool

def Style.plain (s : Style) (c : Char) : Option (Mode × List Char) :=
  if c = s.quote then some (.quotes 1, [])
  else if s.escapes && c = '\\' then some (.escaped, [])
  else if s.multiline && c = '\n' then some (.plain, ['\n'])
  else if s.multiline && c = '\r' then some (.carriage, [])
  else if isPlain c then some (.plain, [c])
  else none

/-- The start of a fold: a backslash at the end of a line, which blanks may follow. -/
def foldStart (c : Char) : Option (Mode × List Char) :=
  if isBlank c then some (.foldBlank, [])
  else if c = '\n' then some (.fold, [])
  else if c = '\r' then some (.foldCarriage, [])
  else none

def Style.escaped (s : Style) (c : Char) : Option (Mode × List Char) :=
  match unescape? c with
  | some d => some (.plain, [d])
  | none =>
    if c = 'u' then some (.code 4 0, [])
    else if c = 'U' then some (.code 8 0, [])
    else if s.multiline then foldStart c
    else none

/-- The next mode and what the character adds to the string. A fold swallows everything up to the
next character that is neither blank nor the end of a line. -/
def Style.step (s : Style) (c : Char) : Mode → Option (Mode × List Char)
  | .plain => s.plain c
  | .quotes n => (s.plain c).map fun (m, out) => (m, List.replicate n s.quote ++ out)
  | .escaped => s.escaped c
  | .code left value => do
    let value := value * 16 + (← hexValue? c)
    if left = 1 then return (.plain, [← charOfNat? value])
    else return (.code (left - 1) value, [])
  | .carriage => if c = '\n' then some (.plain, ['\n']) else none
  | .foldBlank => foldStart c
  | .foldCarriage => if c = '\n' then some (.fold, []) else none
  | .fold =>
    if isBlank c || c = '\n' then some (.fold, [])
    else if c = '\r' then some (.foldCarriage, [])
    else s.plain c

def Style.closing (s : Style) : Nat :=
  if s.multiline then 3 else 1

/-- A run of quotes closes the string when it is long enough. Over several lines up to two quotes
before the closing three belong to the string. -/
def Style.read (s : Style) (m : Mode) (taken : List Char) : Reader String
  | [] =>
    match m with
    | .quotes n =>
      if s.closing ≤ n then
        .ok (.ofList (taken.reverse ++ List.replicate (n - s.closing) s.quote), [])
      else .error .unexpectedEnd
    | _ => .error .unexpectedEnd
  | c :: cs =>
    match m with
    | .quotes n =>
      if s.closing ≤ n && (c != s.quote || !s.multiline || n = 5) then
        .ok (.ofList (taken.reverse ++ List.replicate (n - s.closing) s.quote), c :: cs)
      else if c = s.quote then s.read (.quotes (n + 1)) taken cs
      else
        match s.step c m with
        | some (m, out) => s.read m (out.reverse ++ taken) cs
        | none => .error (.unexpected c)
    | m =>
      match s.step c m with
      | some (m, out) => s.read m (out.reverse ++ taken) cs
      | none => .error (.unexpected c)

def skipNewline : List Char → List Char
  | '\n' :: cs => cs
  | '\r' :: '\n' :: cs => cs
  | cs => cs

def readLineString (quote : Char) : Reader String :=
  Style.read { quote := quote, escapes := quote = '"', multiline := false } .plain []

/-- A string of either length. Three quotes open a long one, whose first line may be empty. -/
def readString (quote : Char) (cs : List Char) : Except Fault (String × List Char) :=
  match cs with
  | a :: b :: rest =>
    if a = quote && b = quote then
      Style.read { quote := quote, escapes := quote = '"', multiline := true } .plain []
        (skipNewline rest)
    else readLineString quote cs
  | cs => readLineString quote cs

end Straggler.Toml
