/-!
# The command line

The options of the program and the command after them. What follows two dashes by themselves is
the command, whatever it looks like; before them only options may stand.
-/

namespace Straggler

set_option autoImplicit false

/-- A place for the configuration and a window of grace are given at most once each, and so is
every switch; the wish for more messages counts. -/
structure Options where
  config : Option String := none
  graceMs : Option Nat := none
  dryRun : Bool := false
  json : Bool := false
  sweepOnExit : Bool := false
  verbosity : Nat := 0
  command : List String := []
  deriving DecidableEq, Repr

namespace Options

inductive Valued
  | config
  | graceMs
  deriving DecidableEq, Repr

inductive Switch
  | dryRun
  | json
  | sweepOnExit
  | verbose
  | help
  deriving DecidableEq, Repr

inductive Name
  | valued (v : Valued)
  | switch (s : Switch)
  deriving DecidableEq, Repr

def Name.ofLong? : String → Option Name
  | "config" => some (.valued .config)
  | "grace-ms" => some (.valued .graceMs)
  | "dry-run" => some (.switch .dryRun)
  | "json" => some (.switch .json)
  | "sweep-on-exit" => some (.switch .sweepOnExit)
  | "verbose" => some (.switch .verbose)
  | "help" => some (.switch .help)
  | _ => none

def Name.ofShort? : Char → Option Name
  | 'c' => some (.valued .config)
  | 'v' => some (.switch .verbose)
  | 'h' => some (.switch .help)
  | _ => none

/-- A number of milliseconds below 2^64. A plus sign may stand before it. -/
def milliseconds? (text : List Char) : Option Nat :=
  let digits := match text with
    | '+' :: cs => cs
    | cs => cs
  let n := digits.foldl (fun n c => n * 10 + (c.toNat - '0'.toNat)) 0
  if digits.isEmpty || !digits.all Char.isDigit || 0x10000000000000000 ≤ n then none else some n

def set? (o : Options) (v : Valued) (value : String) : Option Options :=
  match v with
  | .config =>
    if o.config.isSome || value.isEmpty then none
    else some { o with config := some value }
  | .graceMs =>
    if o.graceMs.isSome then none
    else (milliseconds? value.toList).map fun n => { o with graceMs := some n }

end Options

inductive Request
  | run (o : Options)
  | help
  | misuse
  deriving DecidableEq, Repr

/-- What has been understood so far. An option may still wait for its value. -/
inductive Reading
  | options (o : Options)
  | awaiting (v : Options.Valued) (o : Options)
  | answer (r : Request)
  deriving DecidableEq, Repr

namespace Reading

open Options

def ofOptions : Option Options → Reading
  | some o => options o
  | none => answer .misuse

def throw (o : Options) : Switch → Reading
  | .dryRun => if o.dryRun then answer .misuse else options { o with dryRun := true }
  | .json => if o.json then answer .misuse else options { o with json := true }
  | .sweepOnExit =>
    if o.sweepOnExit then answer .misuse else options { o with sweepOnExit := true }
  | .verbose => options { o with verbosity := o.verbosity + 1 }
  | .help => answer .help

/-- Reads a cluster of short options. The first that takes a value takes all that follows it, and
an equals sign between them does not count. -/
def cluster (o : Options) : List Char → Reading
  | [] => options o
  | c :: cs =>
    match Name.ofShort? c with
    | none => answer .misuse
    | some (.valued v) =>
      match cs with
      | [] => awaiting v o
      | '=' :: value => ofOptions (o.set? v (.ofList value))
      | value => ofOptions (o.set? v (.ofList value))
    | some (.switch s) =>
      match throw o s with
      | options o => cluster o cs
      | other => other

/-- Reads a long option, which may have its value after an equals sign. -/
def long (o : Options) (text : List Char) : Reading :=
  match Name.ofLong? (.ofList (text.takeWhile (· != '='))), text.dropWhile (· != '=') with
  | some (.valued v), _ :: value => ofOptions (o.set? v (.ofList value))
  | some (.valued v), [] => awaiting v o
  | some (.switch s), [] => throw o s
  | some (.switch _), _ :: _ => answer .misuse
  | none, _ => answer .misuse

/-- A single dash is a value like any other. -/
def looksLikeOption (text : String) : Bool :=
  text.startsWith "-" && text != "-"

def next (o : Options) (text : String) : Reading :=
  match text.toList with
  | '-' :: '-' :: cs => long o cs
  | '-' :: c :: cs => cluster o (c :: cs)
  | _ => answer .misuse

end Reading

/-- Reads the arguments from left to right. The first fault or wish for help decides. -/
def Request.read : Reading → List String → Request
  | .answer r, _ => r
  | .options o, [] => .run o
  | .awaiting _ _, [] => .misuse
  | .options o, text :: rest =>
    if text = "--" then .run { o with command := rest } else read (Reading.next o text) rest
  | .awaiting v o, text :: rest =>
    if Reading.looksLikeOption text then .misuse else read (.ofOptions (o.set? v text)) rest

def Request.ofArguments (arguments : List String) : Request :=
  read (.options {}) arguments

def usage : String :=
  "Usage: test-reaper [OPTIONS] [-- <COMMAND>...]\n"

def helpText : String :=
  "Terminate stray test processes, or run a test command and clean up after it\n\n" ++ usage
    ++ "
Arguments:
  [COMMAND]...  Command to run under supervision

Options:
  -c, --config <CONFIG>      Config file (default: search the usual locations)
      --grace-ms <GRACE_MS>  Grace window between the graceful and the forceful signal"
    ++ ", in milliseconds
      --dry-run              Report matching processes without signaling them
      --json                 Print reports as JSON
      --sweep-on-exit        In wrapper mode, also clean up after the command exits normally
  -v, --verbose...           More log output on stderr (-v info, -vv debug)
  -h, --help                 Print help
"

end Straggler
