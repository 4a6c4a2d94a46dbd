import Straggler.Toml.Number
import Straggler.Toml.Tree

/-!
# Reading a document

Keys, values and tables from the text of a TOML 1.0 document. Each reader consumes the front of
the text, so its length bounds every repetition, and the limit on nesting bounds the recursion.
-/

namespace Straggler.Toml

set_option autoImplicit false

def isBare (c : Char) : Bool :=
  c.isAlphanum || c = '-' || c = '_'

def readKeyPart : Reader String
  | '"' :: cs => readLineString '"' cs
  | '\'' :: cs => readLineString '\'' cs
  | cs =>
    match cs.takeWhile isBare with
    | [] => .error (unexpectedAt cs)
    | word => .ok (.ofList word, cs.dropWhile isBare)

def readMoreParts : Nat → List String → Reader (List String)
  | 0, taken, cs => .ok (taken.reverse, cs)
  | n + 1, taken, cs =>
    match cs with
    | '.' :: cs => do
      let (part, cs) ← readKeyPart (skipBlanks cs)
      readMoreParts n (part :: taken) (skipBlanks cs)
    | cs => .ok (taken.reverse, cs)

/-- A dotted key: the path to its table and the key in it. Blanks may stand around its parts. -/
def readKey (cs : List Char) : Except Fault ((List String × String) × List Char) := do
  let (first, cs) ← readKeyPart (skipBlanks cs)
  let (parts, cs) ← readMoreParts cs.length [first] (skipBlanks cs)
  if nestingLimit ≤ parts.length then throw .nestedTooDeeply
  return ((parts.dropLast, parts.getLastD first), cs)

def readWord (word : List Char) (v : Value) (cs : List Char) : Except Fault (Value × List Char) :=
  match startsWith word cs with
  | some rest => .ok (v, rest)
  | none => .error (unexpectedAt cs)

/-- The items of an array up to its closing bracket, given a reader of one. A comma may follow the
last one. -/
def readItems (item : Reader Value) : Nat → List Value → Reader (List Value)
  | 0, _, cs => .error (unexpectedAt cs)
  | n + 1, taken, cs => do
    match ← skipLines false cs with
    | ']' :: cs => return (taken.reverse, cs)
    | cs =>
      let (v, cs) ← item cs
      match ← skipLines false cs with
      | ',' :: cs => readItems item n (v :: taken) cs
      | ']' :: cs => return ((v :: taken).reverse, cs)
      | cs => throw (unexpectedAt cs)

def readAssigned (item : Reader Value) : Reader Value
  | '=' :: cs => item (skipBlanks cs)
  | cs => .error (unexpectedAt cs)

/-- The pairs of an inline table after the first. No comma may follow the last one. -/
def readPairs (item : Reader Value) : Nat → Entries → Reader Entries
  | 0, _, cs => .error (unexpectedAt cs)
  | n + 1, taken, cs => do
    let ((path, key), cs) ← readKey cs
    let (v, cs) ← readAssigned item cs
    let (_, taken) ← assign path key v .header taken
    match skipBlanks cs with
    | ',' :: cs => readPairs item n taken cs
    | cs => return (taken, cs)

def readInlineTable (item : Reader Value) (cs : List Char) : Except Fault (Value × List Char) := do
  match skipBlanks cs with
  | '}' :: cs => return (.table [], cs)
  | cs =>
    match ← readPairs item cs.length [] cs with
    | (entries, '}' :: cs) => return (.table (entryValues entries), cs)
    | (_, cs) => throw (unexpectedAt cs)

def readScalar (cs : List Char) : Except Fault (Value × List Char) :=
  match cs with
  | '"' :: cs => (readString '"' cs).map fun (s, cs) => (.string s, cs)
  | '\'' :: cs => (readString '\'' cs).map fun (s, cs) => (.string s, cs)
  | 't' :: _ => readWord "true".toList (.boolean true) cs
  | 'f' :: _ => readWord "false".toList (.boolean false) cs
  | 'i' :: _ => readWord "inf".toList (.float "inf") cs
  | 'n' :: _ => readWord "nan".toList (.float "nan") cs
  | c :: _ =>
    if c.isDigit || c = '+' || c = '-' then readNumber cs else .error (.unexpected c)
  | [] => .error .unexpectedEnd

/-- A value, with so many levels of nesting left below it. -/
def readValue : Nat → Reader Value
  | 0, cs =>
    match cs with
    | '[' :: _ => .error .nestedTooDeeply
    | '{' :: _ => .error .nestedTooDeeply
    | cs => readScalar cs
  | levels + 1, cs =>
    match cs with
    | '[' :: cs => do
      let (items, cs) ← readItems (readValue levels) (cs.length + 1) [] cs
      return (.array items, cs)
    | '{' :: cs => readInlineTable (readValue levels) cs
    | cs => readScalar cs

/-- The document read so far: its root table and the path of the current one. -/
structure Document where
  root : Entries := []
  current : List String := []
  deriving Repr

/-- Changes the table at the end of a path. -/
def Document.change (d : Document) (path : List String)
    (f : Origin → Entries → Except Fault (Origin × Entries)) : Except Fault Document := do
  return { d with root := (← descend false f path .header d.root).2 }

def Document.assign (d : Document) (path : List String) (key : String) (v : Value) :
    Except Fault Document :=
  d.change d.current (Toml.assign path key v)

/-- One line that is not empty: a header of a table, one of an element, or a key and a value. -/
def Document.step (d : Document) (cs : List Char) : Except Fault (Document × List Char) := do
  match cs with
  | '[' :: '[' :: cs =>
    match ← readKey cs with
    | ((path, key), ']' :: ']' :: cs) =>
      let cs ← endLine cs
      return ({ ← d.change path (openElement key) with current := path ++ [key] }, cs)
    | (_, cs) => throw (unexpectedAt cs)
  | '[' :: cs =>
    match ← readKey cs with
    | ((path, key), ']' :: cs) =>
      let cs ← endLine cs
      return ({ ← d.change path (openTable key) with current := path ++ [key] }, cs)
    | (_, cs) => throw (unexpectedAt cs)
  | cs =>
    let ((path, key), cs) ← readKey cs
    let (v, cs) ← readAssigned (readValue (nestingLimit - 1)) cs
    let cs ← endLine cs
    return (← d.assign path key v, cs)

def Document.read : Nat → Document → List Char → Except Fault Document
  | 0, d, _ => .ok d
  | n + 1, d, cs => do
    match skipBlanks cs with
    | [] => return d
    | '#' :: cs => d.read n (← endLine ('#' :: cs))
    | '\n' :: cs => d.read n cs
    | '\r' :: '\n' :: cs => d.read n cs
    | cs =>
      let (d, cs) ← d.step cs
      d.read n cs

/-- The entries of a document. A mark of byte order may come first. -/
def parse (text : List Char) : Except Fault (List (String × Value)) := do
  let cs := match text with
    | '\ufeff' :: cs => cs
    | cs => cs
  let d ← Document.read (cs.length + 1) {} cs
  return entryValues d.root

end Straggler.Toml
