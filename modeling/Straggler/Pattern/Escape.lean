import Straggler.Pattern.Flags
import Straggler.Pattern.Regex
import Straggler.Unicode.Hex

/-!
# Escapes

What a backslash introduces: characters by name or number, classes, properties and conditions. The
reader yields an atom, and what the atom means depends on the flags in force.
-/

namespace Straggler.Pattern

open Unicode

set_option autoImplicit false

inductive Perl
  | digit
  | space
  | word
  deriving DecidableEq, Repr

inductive Condition
  | textStart
  | textEnd
  | lineStart
  | lineEnd
  | boundary
  | noBoundary
  | wordStart
  | wordEnd
  | wordStartHalf
  | wordEndHalf
  deriving DecidableEq, Repr

inductive PropertyName
  | bare (name : List Char)
  | pair (property value : List Char)
  deriving DecidableEq, Repr

/-- A character given by two hexadecimal digits is a byte when the pattern is not in Unicode. -/
inductive Atom
  | char (c : Char) (twoDigits : Bool)
  | perl (p : Perl) (negated : Bool)
  | property (name : PropertyName) (negated : Bool)
  | condition (c : Condition)
  deriving DecidableEq, Repr

def Perl.set (unicode : Bool) : Perl → CharSet
  | digit => if unicode then decimalNumber else .range '0' '9'
  | space => if unicode then whiteSpace else .ranges [(0x9, 0xD), (0x20, 0x20)]
  | word => if unicode then wordCharacter else asciiWordCharacter

def PropertyName.set? : PropertyName → Option CharSet
  | bare name => named? name
  | pair property value => valued? property value

namespace Flags

def folding (flags : Flags) : Folding :=
  if flags.unicode then .simple else .ascii

def fold (flags : Flags) (s : CharSet) : CharSet :=
  if flags.caseless then .folded flags.folding s else s

/-- Outside of Unicode a complement would hold bytes that are no characters. -/
def negate (flags : Flags) (negated : Bool) (s : CharSet) : Except SyntaxError CharSet :=
  if negated then
    if flags.unicode then .ok (.compl s) else .error .notText
  else .ok s

def perl (flags : Flags) (p : Perl) (negated : Bool) : Except SyntaxError CharSet :=
  flags.negate negated (p.set flags.unicode)

def property (flags : Flags) (name : PropertyName) (negated : Bool) : Except SyntaxError CharSet :=
  if flags.unicode then
    match name.set? with
    | some s => flags.negate negated (flags.fold s)
    | none => .error .unknownProperty
  else .error .notText

def char (flags : Flags) (c : Char) (twoDigits : Bool) : Except SyntaxError CharSet :=
  if !flags.unicode && twoDigits && 0x7F < c.toNat then .error .notText
  else .ok (flags.fold (.single c))

def dot (flags : Flags) : Except SyntaxError CharSet :=
  if flags.unicode then
    if flags.dotAll then .ok .all
    else if flags.crlf then .ok (.compl (.union (.single '\n') (.single '\r')))
    else .ok (.compl (.single '\n'))
  else .error .notText

def wordSet (flags : Flags) : CharSet :=
  if flags.unicode then wordCharacter else asciiWordCharacter

/-- The ends of the text are those of a line, unless lines are told apart. -/
def condition (flags : Flags) : Condition → Look
  | .textStart => .textStart
  | .textEnd => .textEnd
  | .lineStart => if flags.multiLine then .lineStart flags.crlf else .textStart
  | .lineEnd => if flags.multiLine then .lineEnd flags.crlf else .textEnd
  | .boundary => .boundary flags.wordSet
  | .noBoundary => .noBoundary flags.wordSet
  | .wordStart => .wordStart flags.wordSet
  | .wordEnd => .wordEnd flags.wordSet
  | .wordStartHalf => .wordStartHalf flags.wordSet
  | .wordEndHalf => .wordEndHalf flags.wordSet

def atom (flags : Flags) : Atom → Except SyntaxError Regex
  | .char c twoDigits => (flags.char c twoDigits).map .set
  | .perl p negated => (flags.perl p negated).map .set
  | .property name negated => (flags.property name negated).map .set
  | .condition c => .ok (.look (flags.condition c))

end Flags

def charOfHex (value : Nat) (twoDigits : Bool) : Except SyntaxError Atom :=
  match charOfNat? value with
  | some c => .ok (.char c twoDigits)
  | none => .error .invalidEscape

/-- Reads exactly this many digits; blanks may stand between them in a verbose pattern. -/
def readHexDigits (flags : Flags) (value : Nat) : Nat → Reader Nat
  | 0, cs => .ok (value, cs)
  | n + 1, cs =>
    match cs with
    | c :: cs =>
      match hexValue? c with
      | some d => readHexDigits flags (value * 16 + d) n (flags.skip cs)
      | none => .error .invalidEscape
    | [] => .error .invalidEscape

/-- Reads up to a closing brace, without the blanks of a verbose pattern. -/
def readBraced (flags : Flags) (comment : Bool) (taken : List Char) : Reader (List Char)
  | [] => .error .invalidEscape
  | c :: cs =>
    if flags.verbose && comment then readBraced flags (c != '\n') taken cs
    else if flags.verbose && isBlank c then readBraced flags false taken cs
    else if flags.verbose && c = '#' then readBraced flags true taken cs
    else if c = '}' then .ok (taken.reverse, cs)
    else readBraced flags false (c :: taken) cs

def hexNumber (value : Nat) : List Char → Option Nat
  | [] => some value
  | c :: cs => (hexValue? c).bind fun d => hexNumber (value * 16 + d) cs

def readHex (flags : Flags) (digits : Nat) (cs : List Char) :
    Except SyntaxError (Atom × List Char) := do
  match flags.skip cs with
  | '{' :: cs =>
    let (text, cs) ← readBraced flags false [] cs
    match text, hexNumber 0 text with
    | _ :: _, some value => return (← charOfHex value false, flags.skip cs)
    | _, _ => .error .invalidEscape
  | cs =>
    let (value, cs) ← readHexDigits flags 0 digits cs
    return (← charOfHex value (digits == 2), cs)

def splitAtSign (sign : List Char) (taken : List Char) :
    List Char → Option (List Char × List Char)
  | [] => none
  | c :: cs =>
    if sign.isPrefixOf (c :: cs) then some (taken.reverse, (c :: cs).drop sign.length)
    else splitAtSign sign (c :: taken) cs

def PropertyName.ofText (text : List Char) : PropertyName × Bool :=
  match splitAtSign ['!', '='] [] text, splitAtSign [':'] [] text, splitAtSign ['='] [] text with
  | some (property, value), _, _ => (.pair property value, true)
  | none, some (property, value), _ => (.pair property value, false)
  | none, none, some (property, value) => (.pair property value, false)
  | none, none, none => (.bare text, false)

def readProperty (flags : Flags) (negated : Bool) (cs : List Char) :
    Except SyntaxError (Atom × List Char) := do
  match flags.skip cs with
  | [] => .error .invalidEscape
  | '\\' :: _ => .error .invalidEscape
  | '{' :: cs =>
    let (text, cs) ← readBraced flags false [] cs
    let (name, unequal) := PropertyName.ofText text
    return (.property name (negated != unequal), cs)
  | c :: cs => return (.property (.bare [c]) negated, flags.skip cs)

def wordCondition? : String → Option Condition
  | "start" => some .wordStart
  | "end" => some .wordEnd
  | "start-half" => some .wordStartHalf
  | "end-half" => some .wordEndHalf
  | _ => none

/-- Braces that do not begin like a name are a repetition, and are left alone. -/
def readBoundary (flags : Flags) : Reader Condition
  | '{' :: cs =>
    match flags.skip cs with
    | [] => .error .invalidRepetition
    | c :: rest =>
      if c.isAlpha || c = '-' then do
        let (text, after) ← readBraced flags false [] (c :: rest)
        match text.all (fun d => d.isAlpha || d = '-'), wordCondition? (.ofList text) with
        | true, some condition => return (condition, after)
        | _, _ => .error .invalidEscape
      else .ok (.boundary, '{' :: cs)
  | cs => .ok (.boundary, cs)

/-- Seven-bit characters that stand for themselves after a backslash: all that are no letters or
digits, angle brackets apart. -/
def escapable (c : Char) : Bool :=
  c.toNat < 128 && !c.isAlphanum && c != '<' && c != '>'

/-- Reads what follows a backslash. -/
def readEscape (flags : Flags) : Reader Atom
  | [] => .error .invalidEscape
  | c :: cs =>
    match c with
    | 'x' => readHex flags 2 cs
    | 'u' => readHex flags 4 cs
    | 'U' => readHex flags 8 cs
    | 'p' => readProperty flags false cs
    | 'P' => readProperty flags true cs
    | 'd' => .ok (.perl .digit false, cs)
    | 's' => .ok (.perl .space false, cs)
    | 'w' => .ok (.perl .word false, cs)
    | 'D' => .ok (.perl .digit true, cs)
    | 'S' => .ok (.perl .space true, cs)
    | 'W' => .ok (.perl .word true, cs)
    | 'a' => .ok (.char '\x07' false, cs)
    | 'f' => .ok (.char '\x0c' false, cs)
    | 't' => .ok (.char '\t' false, cs)
    | 'n' => .ok (.char '\n' false, cs)
    | 'r' => .ok (.char '\r' false, cs)
    | 'v' => .ok (.char '\x0b' false, cs)
    | 'A' => .ok (.condition .textStart, cs)
    | 'z' => .ok (.condition .textEnd, cs)
    | 'B' => .ok (.condition .noBoundary, cs)
    | '<' => .ok (.condition .wordStart, cs)
    | '>' => .ok (.condition .wordEnd, cs)
    | 'b' => (readBoundary flags cs).map fun (condition, cs) => (.condition condition, cs)
    | c => if escapable c then .ok (.char c false, cs) else .error .invalidEscape

end Straggler.Pattern
