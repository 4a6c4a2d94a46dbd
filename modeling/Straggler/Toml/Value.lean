/-!
# TOML values

The values of a TOML document, and why a text is none. Numbers with a fraction and dates have to
be well formed, but nothing asks for their value, so they are kept as written.
-/

namespace Straggler.Toml

set_option autoImplicit false

inductive Value
  | string (s : String)
  | integer (n : Int)
  | float (text : String)
  | boolean (b : Bool)
  | datetime (text : String)
  | array (items : List Value)
  | table (entries : List (String × Value))
  deriving Repr

inductive Fault
  | unexpected (c : Char)
  | unexpectedEnd
  | invalidEscape
  | invalidNumber
  | invalidDate
  | duplicateKey (key : String)
  | notATable (key : String)
  | nestedTooDeeply
  deriving DecidableEq, Repr

def Fault.message : Fault → String
  | unexpected c => "unexpected character " ++ c.quote
  | unexpectedEnd => "unexpected end of the document"
  | invalidEscape => "invalid escape sequence"
  | invalidNumber => "invalid number"
  | invalidDate => "invalid date or time"
  | duplicateKey key => "duplicate key `" ++ key ++ "`"
  | notATable key => "key `" ++ key ++ "` holds no table"
  | nestedTooDeeply => "nested too deeply"

abbrev Reader (α : Type) :=
  List Char → Except Fault (α × List Char)

/-- The fault of finding this text where something else is asked for. -/
def unexpectedAt : List Char → Fault
  | [] => .unexpectedEnd
  | c :: _ => .unexpected c

/-- How deeply arrays and tables may be nested, and how many parts a key may have. -/
def nestingLimit : Nat :=
  80

def isBlank (c : Char) : Bool :=
  c = ' ' || c = '\t'

def isPlain (c : Char) : Bool :=
  c = '\t' || 0x20 ≤ c.toNat && c.toNat != 0x7F

def skipBlanks (cs : List Char) : List Char :=
  cs.dropWhile isBlank

/-- The rest of a line: blanks, a comment, and the end of the line or of the document. -/
def endLine (cs : List Char) : Except Fault (List Char) :=
  let cs := match skipBlanks cs with
    | '#' :: cs => cs.dropWhile isPlain
    | cs => cs
  match cs with
  | [] => .ok []
  | '\n' :: cs => .ok cs
  | '\r' :: '\n' :: cs => .ok cs
  | c :: _ => .error (.unexpected c)

/-- Skips blanks, comments and ends of lines, which may stand between the items of an array. -/
def skipLines (comment : Bool) : List Char → Except Fault (List Char)
  | [] => .ok []
  | '\n' :: cs => skipLines false cs
  | '\r' :: '\n' :: cs => skipLines false cs
  | c :: cs =>
    if comment then
      if isPlain c then skipLines true cs else .error (.unexpected c)
    else if c = '#' then skipLines true cs
    else if isBlank c then skipLines false cs
    else .ok (c :: cs)

end Straggler.Toml
