import Straggler.Supervisor
import Straggler.Toml.Reader

/-!
# Configuration

What a configuration file may set, how it is read, and how it becomes settings. Every field has a
default of its own, keys of no meaning are passed over, and patterns and signal names are checked
only when the settings are made.
-/

namespace Straggler

set_option autoImplicit false

structure CategoryConfig where
  name : String
  pattern : String
  kind : RuleKind := .regex
  deriving DecidableEq, Repr

def builtinCategories : List CategoryConfig :=
  [{ name := "worker", pattern := "(pytest|xdist).*worker|worker.*pytest" },
    { name := "runner", pattern := "python[0-9.]*\\s+-m\\s+pytest" },
    { name := "generic", pattern := "pytest", kind := .substring }]

structure Config where
  graceWindowMs : Nat := 1000
  graceSignal : String := "SIGTERM"
  killSignal : String := "SIGKILL"
  categories : List CategoryConfig := builtinCategories
  deriving DecidableEq, Repr

def signalNamed (name : String) : Except Error Signal :=
  match Signal.parse? name with
  | some s => .ok s
  | none => .error (.invalidSignal name)

def CategoryConfig.compile [Pattern.Engine] (c : CategoryConfig) : Except Error Category := do
  return { name := c.name, rule := ← Rule.compile c.name c.pattern c.kind }

/-- The categories are checked first, in their order, and then the two signals. -/
def Config.settings [Pattern.Engine] (c : Config) : Except Error Settings := do
  let categories ← c.categories.mapM (·.compile)
  let graceSignal ← signalNamed c.graceSignal
  let killSignal ← signalNamed c.killSignal
  return { categories, policy := { graceSignal, graceWindow := c.graceWindowMs, killSignal } }

/-- The settings that hold when there is no usable configuration. There is always room for their
patterns. -/
def Settings.builtin : Settings where
  categories := builtinCategories.filterMap fun c =>
    (@CategoryConfig.compile .boundless c).toOption
  policy := {}

namespace Config

def misfit (key expected : String) : String :=
  "invalid value for `" ++ key ++ "`, expected " ++ expected

def readText (key : String) : Toml.Value → Except String String
  | .string s => .ok s
  | _ => .error (misfit key "a string")

def readMilliseconds (key : String) : Toml.Value → Except String Nat
  | .integer (.ofNat n) => .ok n
  | _ => .error (misfit key "a whole number that is not negative")

def kindNamed (name : String) : Except String RuleKind :=
  if name = "regex" then .ok .regex
  else if name = "substring" then .ok .substring
  else .error (misfit "kind" "`regex` or `substring`")

/-- A kind is a name, or a table of which the one key is the name and holds nothing. -/
def readKind : Toml.Value → Except String RuleKind
  | .string name => kindNamed name
  | .table [(name, .table [])] => kindNamed name
  | .table [(name, .array [])] => kindNamed name
  | _ => .error (misfit "kind" "`regex` or `substring`")

/-- The field, its default if it is missing, or the fault if there is no default. -/
def field {α : Type} (entries : List (String × Toml.Value)) (key : String)
    (read : Toml.Value → Except String α) (default : Except String α) : Except String α :=
  match entries.lookup key with
  | some v => read v
  | none => default

def missing {α : Type} (key : String) : Except String α :=
  .error ("missing field `" ++ key ++ "`")

/-- A category is a table with a name, a pattern and a kind, or an array of these in this order.
-/
def readCategory : Toml.Value → Except String CategoryConfig
  | .table entries => do
    let name ← field entries "name" (readText "name") (missing "name")
    let pattern ← field entries "pattern" (readText "pattern") (missing "pattern")
    let kind ← field entries "kind" readKind (.ok .regex)
    return { name, pattern, kind }
  | .array (name :: pattern :: rest) => do
    let name ← readText "name" name
    let pattern ← readText "pattern" pattern
    let kind ← match rest with
      | [] => pure .regex
      | kind :: _ => readKind kind
    return { name, pattern, kind }
  | _ => .error (misfit "category" "a name, a pattern and a kind")

def readCategories : Toml.Value → Except String (List CategoryConfig)
  | .array items => items.mapM readCategory
  | _ => .error (misfit "category" "an array")

def ofEntries (entries : List (String × Toml.Value)) : Except String Config := do
  let defaults : Config := {}
  let graceWindowMs ←
    field entries "grace_window_ms" (readMilliseconds "grace_window_ms")
      (.ok defaults.graceWindowMs)
  let graceSignal ←
    field entries "grace_signal" (readText "grace_signal") (.ok defaults.graceSignal)
  let killSignal ← field entries "kill_signal" (readText "kill_signal") (.ok defaults.killSignal)
  let categories ← field entries "category" readCategories (.ok defaults.categories)
  return { graceWindowMs, graceSignal, killSignal, categories }

def parse (text : String) : Except Error Config :=
  match Toml.parse text.toList with
  | .error fault => .error (.config (.malformed fault.message))
  | .ok entries =>
    match ofEntries entries with
    | .error reason => .error (.config (.malformed reason))
    | .ok config => .ok config

end Config

end Straggler
