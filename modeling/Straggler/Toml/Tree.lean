import Straggler.Toml.Value

/-!
# Trees of tables

A document under construction. Each table remembers how it came to be, because that decides what
may still be added to it: a header may not name a table twice, dotted keys may extend only tables
that dotted keys made, and a value is never opened again.
-/

namespace Straggler.Toml

set_option autoImplicit false

/-- How a table came to be: by a header of its own, by a header that names a table inside it, or
by dotted keys. -/
inductive Origin
  | header
  | implied
  | dotted
  deriving DecidableEq, Repr

/-- The elements of an array of tables are kept latest first. -/
inductive Node
  | value (v : Value)
  | table (origin : Origin) (entries : List (String × Node))
  | tables (elements : List (List (String × Node)))
  deriving Repr

abbrev Entries :=
  List (String × Node)

def put (key : String) (node : Node) : Entries → Entries
  | [] => [(key, node)]
  | (k, n) :: es => if k = key then (k, node) :: es else (k, n) :: put key node es

/-- Follows a path of keys and changes the table at its end. Tables that are missing are made on
the way, and an array of tables is entered at its latest element. -/
def descend (byKeys : Bool) (change : Origin → Entries → Except Fault (Origin × Entries)) :
    List String → Origin → Entries → Except Fault (Origin × Entries)
  | [], origin, es => change origin es
  | key :: path, origin, es => do
    match es.lookup key with
    | none =>
      let (o, inner) ← descend byKeys change path (if byKeys then .dotted else .implied) []
      return (origin, put key (.table o inner) es)
    | some (.value _) => throw (.notATable key)
    | some (.table o inner) =>
      if byKeys && o = .header then throw (.duplicateKey key)
      let (o, inner) ← descend byKeys change path o inner
      return (origin, put key (.table o inner) es)
    | some (.tables []) => throw (.notATable key)
    | some (.tables (latest :: earlier)) =>
      let (_, latest) ← descend byKeys change path .header latest
      return (origin, put key (.tables (latest :: earlier)) es)

/-- Adds one value under a dotted key. The table that takes it must have been made the same way. -/
def assign (path : List String) (key : String) (v : Value) (origin : Origin) (es : Entries) :
    Except Fault (Origin × Entries) :=
  descend true (fun o inner => do
    if (o == .dotted) == path.isEmpty then throw (.duplicateKey key)
    match inner.lookup key with
    | some _ => throw (.duplicateKey key)
    | none => return (o, put key (.value v) inner)) path origin es

/-- Opens the table of a header. It may exist already if only headers inside it made it. -/
def openTable (key : String) (o : Origin) (es : Entries) : Except Fault (Origin × Entries) :=
  match es.lookup key with
  | none => .ok (o, put key (.table .header []) es)
  | some (.table .implied inner) => .ok (o, put key (.table .header inner) es)
  | some _ => .error (.duplicateKey key)

def openElement (key : String) (o : Origin) (es : Entries) : Except Fault (Origin × Entries) :=
  match es.lookup key with
  | none => .ok (o, put key (.tables [[]]) es)
  | some (.tables elements) => .ok (o, put key (.tables ([] :: elements)) es)
  | some _ => .error (.duplicateKey key)

mutual

def Node.toValue : Node → Value
  | .value v => v
  | .table _ es => .table (entryValues es)
  | .tables elements => .array (elementValues elements).reverse

def entryValues : List (String × Node) → List (String × Value)
  | [] => []
  | e :: es => entryValue e :: entryValues es

def entryValue : String × Node → String × Value
  | (key, n) => (key, n.toValue)

def elementValues : List (List (String × Node)) → List Value
  | [] => []
  | es :: rest => .table (entryValues es) :: elementValues rest

end

end Straggler.Toml
