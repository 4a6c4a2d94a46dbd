import Straggler.Toml.Quoted

/-!
# Numbers, dates and times

A text that starts like a number is a date or a time, a number with a fraction or an exponent, or
an integer, tried in this order. Integers have 64 bits; a number too large for a double is refused.
-/

namespace Straggler.Toml

set_option autoImplicit false

open Unicode (hexValue?)

/-- A reader that may find nothing to read, without a fault. -/
abbrev MaybeReader (α : Type) :=
  List Char → Except Fault (Option (α × List Char))

def digits? (n : Nat) (cs : List Char) : Option (Nat × List Char) :=
  let ds := cs.take n
  if ds.length = n && ds.all (·.isDigit) then
    some (ds.foldl (fun v d => v * 10 + (d.toNat - '0'.toNat)) 0, cs.drop n)
  else none

def digitsWithin (n lo hi : Nat) (cs : List Char) : Except Fault (Nat × List Char) :=
  match digits? n cs with
  | some (v, cs) => if lo ≤ v && v ≤ hi then .ok (v, cs) else .error .invalidDate
  | none => .error .invalidDate

def expect (c : Char) : List Char → Except Fault (List Char)
  | d :: cs => if d = c then .ok cs else .error .invalidDate
  | [] => .error .invalidDate

def isLeap (year : Nat) : Bool :=
  year % 4 = 0 && (year % 100 != 0 || year % 400 = 0)

def daysIn (year month : Nat) : Nat :=
  if month = 2 then (if isLeap year then 29 else 28)
  else if month = 4 || month = 6 || month = 9 || month = 11 then 30
  else 31

/-- Four digits and a hyphen make a date, and then the rest has to be one. -/
def date? : MaybeReader Unit := fun cs =>
  match digits? 4 cs with
  | some (year, '-' :: cs) => do
    let (month, cs) ← digitsWithin 2 1 12 cs
    let cs ← expect '-' cs
    let (_, cs) ← digitsWithin 2 1 (daysIn year month) cs
    return some ((), cs)
  | _ => .ok none

/-- An hour and a colon make a time, and then minutes and seconds have to follow. -/
def time? : MaybeReader Unit := fun cs =>
  match digits? 2 cs with
  | some (hour, ':' :: cs) =>
    if hour ≤ 23 then do
      let (_, cs) ← digitsWithin 2 0 59 cs
      let cs ← expect ':' cs
      let (_, cs) ← digitsWithin 2 0 60 cs
      match cs with
      | '.' :: d :: rest =>
        if d.isDigit then return some ((), rest.dropWhile (·.isDigit)) else return some ((), cs)
      | cs => return some ((), cs)
    else .ok none
  | _ => .ok none

def offset (cs : List Char) : Except Fault (List Char) :=
  match cs with
  | c :: rest =>
    if c = 'Z' || c = 'z' then .ok rest
    else if c = '+' || c = '-' then do
      let (_, rest) ← digitsWithin 2 0 23 rest
      let rest ← expect ':' rest
      let (_, rest) ← digitsWithin 2 0 59 rest
      return rest
    else .ok cs
  | [] => .ok []

def isTimeMark (c : Char) : Bool :=
  c = 'T' || c = 't' || c = ' '

def datetime? : MaybeReader Unit := fun cs => do
  match ← date? cs with
  | none => time? cs
  | some (_, cs) =>
    match cs with
    | c :: rest =>
      if isTimeMark c then
        match ← time? rest with
        | some (_, rest) => return some ((), ← offset rest)
        | none => return some ((), cs)
      else return some ((), cs)
    | [] => return some ((), [])

/-- The rest of a run of digits, of which the first has been read. A single underscore may stand
between two digits. -/
def moreDigits (isDigit : Char → Bool) (bar : Bool) (taken : List Char) : Reader (List Char)
  | [] => if bar then .error .invalidNumber else .ok (taken.reverse, [])
  | c :: cs =>
    if isDigit c then moreDigits isDigit false (c :: taken) cs
    else if bar then .error .invalidNumber
    else if c = '_' then moreDigits isDigit true taken cs
    else .ok (taken.reverse, c :: cs)

def someDigits (isDigit : Char → Bool) : Reader (List Char)
  | c :: cs => if isDigit c then moreDigits isDigit false [c] cs else .error .invalidNumber
  | [] => .error .invalidNumber

def readSign : List Char → Bool × List Char
  | '+' :: cs => (false, cs)
  | '-' :: cs => (true, cs)
  | cs => (false, cs)

/-- A sign and decimal digits, of which the first is zero only if it is the only one. -/
def decimal? : MaybeReader (Bool × List Char) := fun cs =>
  match readSign cs with
  | (negative, '0' :: rest) => .ok (some ((negative, ['0']), rest))
  | (negative, c :: rest) =>
    if c.isDigit then do
      let (ds, rest) ← moreDigits (·.isDigit) false [c] rest
      return some ((negative, ds), rest)
    else .ok none
  | (_, []) => .ok none

def natOfDigits (base : Nat) (ds : List Char) : Nat :=
  ds.foldl (fun v d => v * base + (hexValue? d).getD 0) 0

/-- Halfway between the largest double and the next power of two. From here on a number counts as
infinite. -/
def doubleLimit : Nat :=
  Nat.pow 2 1024 - Nat.pow 2 970

/-- Whether the digits, shifted by a power of ten, are out of the range of doubles. The first two
comparisons keep the powers small. -/
def overflows (ds : List Char) (shift : Int) : Bool :=
  let ds := ds.dropWhile (· = '0')
  let magnitude : Int := ds.length + shift
  let n := natOfDigits 10 ds
  if ds.isEmpty || magnitude < 300 then false
  else if 320 < magnitude then true
  else if 0 ≤ shift then doubleLimit ≤ n * Nat.pow 10 shift.toNat
  else doubleLimit * Nat.pow 10 (-shift).toNat ≤ n

def exponent? : MaybeReader Int := fun cs =>
  match cs with
  | c :: cs =>
    if c = 'e' || c = 'E' then do
      let (negative, cs) := readSign cs
      let (ds, cs) ← someDigits (·.isDigit) cs
      let n : Int := natOfDigits 10 ds
      return some (if negative then -n else n, cs)
    else .ok none
  | [] => .ok none

def float? : MaybeReader Unit := fun cs => do
  match ← decimal? cs with
  | none => return none
  | some ((negative, whole), rest) =>
    let (fraction, rest) ← match rest with
      | '.' :: rest => do
        let (ds, rest) ← someDigits (·.isDigit) rest
        pure (some ds, rest)
      | rest => pure (none, rest)
    let (exponent, rest) ← match ← exponent? rest with
      | some (e, rest) => pure (some e, rest)
      | none => pure (none, rest)
    if fraction.isNone && exponent.isNone then return none
    let ds := fraction.getD []
    if !negative && overflows (whole ++ ds) (exponent.getD 0 - ds.length) then
      throw .invalidNumber
    return some ((), rest)

def startsWith (word cs : List Char) : Option (List Char) :=
  if word.isPrefixOf cs then some (cs.drop word.length) else none

def special? (cs : List Char) : Option (List Char) :=
  let cs := (readSign cs).2
  startsWith ['i', 'n', 'f'] cs <|> startsWith ['n', 'a', 'n'] cs

def inRange (n : Int) : Except Fault Int :=
  if -0x8000000000000000 ≤ n && n < 0x8000000000000000 then .ok n else .error .invalidNumber

def based (base : Nat) (cs : List Char) : Except Fault (Int × List Char) := do
  let (ds, cs) ← someDigits (fun c => (hexValue? c).any (· < base)) cs
  return (← inRange (natOfDigits base ds), cs)

def readInteger (cs : List Char) : Except Fault (Int × List Char) :=
  match cs with
  | '0' :: 'x' :: cs => based 16 cs
  | '0' :: 'o' :: cs => based 8 cs
  | '0' :: 'b' :: cs => based 2 cs
  | cs => do
    match ← decimal? cs with
    | none => .error .invalidNumber
    | some ((negative, ds), cs) =>
      let n : Int := natOfDigits 10 ds
      return (← inRange (if negative then -n else n), cs)

def consumed (before after : List Char) : String :=
  .ofList (before.take (before.length - after.length))

def readNumber (cs : List Char) : Except Fault (Value × List Char) := do
  match ← datetime? cs with
  | some (_, rest) => return (.datetime (consumed cs rest), rest)
  | none =>
    match ← float? cs with
    | some (_, rest) => return (.float (consumed cs rest), rest)
    | none =>
      match special? cs with
      | some rest => return (.float (consumed cs rest), rest)
      | none =>
        let (n, rest) ← readInteger cs
        return (.integer n, rest)

end Straggler.Toml
