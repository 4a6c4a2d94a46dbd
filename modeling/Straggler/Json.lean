/-!
# JSON

Values and their text over several lines: two blanks for each level, one member a line, nothing
between the brackets of an empty value.
-/

namespace Straggler

set_option autoImplicit false

/-- The fields of an object are kept in the order in which they are written. -/
inductive Json
  | null
  | bool (b : Bool)
  | number (n : Nat)
  | string (s : String)
  | array (items : List Json)
  | object (fields : List (String × Json))
  deriving Repr

namespace Json

def hexDigit (n : Nat) : Char :=
  if n < 10 then .ofNat ('0'.toNat + n) else .ofNat ('a'.toNat + (n - 10))

/-- Quotes, backslashes and controls are escaped, and nothing else. -/
def escape (c : Char) : List Char :=
  if c = '"' then ['\\', '"']
  else if c = '\\' then ['\\', '\\']
  else if c = '\n' then ['\\', 'n']
  else if c = '\r' then ['\\', 'r']
  else if c = '\t' then ['\\', 't']
  else if c = '\x08' then ['\\', 'b']
  else if c = '\x0c' then ['\\', 'f']
  else if c.toNat < 0x20 then
    ['\\', 'u', '0', '0', hexDigit (c.toNat / 16), hexDigit (c.toNat % 16)]
  else [c]

def quote (s : String) : List Char :=
  '"' :: (s.toList.flatMap escape ++ ['"'])

def newline (level : Nat) : List Char :=
  '\n' :: List.replicate (2 * level) ' '

def separate (separator : List Char) : List (List Char) → List Char
  | [] => []
  | [t] => t
  | t :: ts => t ++ separator ++ separate separator ts

def enclose (opening closing : Char) (level : Nat) (members : List (List Char)) : List Char :=
  if members.isEmpty then [opening, closing]
  else
    opening :: newline (level + 1)
      ++ separate (',' :: newline (level + 1)) members
      ++ newline level ++ [closing]

mutual

def render (level : Nat) : Json → List Char
  | null => "null".toList
  | bool b => (if b then "true" else "false").toList
  | number n => (toString n).toList
  | string s => quote s
  | array items => enclose '[' ']' level (renderItems (level + 1) items)
  | object fields => enclose '{' '}' level (renderFields (level + 1) fields)

def renderItems (level : Nat) : List Json → List (List Char)
  | [] => []
  | v :: vs => render level v :: renderItems level vs

def renderFields (level : Nat) : List (String × Json) → List (List Char)
  | [] => []
  | f :: fs => renderField level f :: renderFields level fs

def renderField (level : Nat) : String × Json → List Char
  | (key, v) => quote key ++ ':' :: ' ' :: render level v

end

def pretty (v : Json) : String :=
  .ofList (render 0 v)

mutual

def sorted : Json → Json
  | array items => array (sortedItems items)
  | object fields => object ((sortedFields fields).mergeSort fun a b => decide (a.1 ≤ b.1))
  | v => v

def sortedItems : List Json → List Json
  | [] => []
  | v :: vs => v.sorted :: sortedItems vs

def sortedFields : List (String × Json) → List (String × Json)
  | [] => []
  | f :: fs => sortedField f :: sortedFields fs

def sortedField : String × Json → String × Json
  | (key, v) => (key, v.sorted)

end

end Json

end Straggler
