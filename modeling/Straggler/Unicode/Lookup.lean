import Straggler.Unicode.Age
import Straggler.Unicode.Property
import Straggler.Unicode.ScriptExtension
import Straggler.Unicode.Segmentation

/-!
# Sets of characters by name

Names of properties and of their values are compared loosely: case, blanks, hyphens, underscores
and a leading "is" make no difference. A bare name is a property, a general category or a script,
tried in this order; a pair of names is a property and one of its values.
-/

namespace Straggler.Unicode

set_option autoImplicit false

/-- The letters and digits of a name that count. -/
def significant (name : List Char) : String :=
  let kept := name.filter fun c => c.toNat < 128 && c != ' ' && c != '_' && c != '-'
  .ofList (kept.map Char.toLower)

/-- The form in which names are compared. The one name that would lose its first letters to the
rule about "is" is the short name of comments. -/
def looseName (name : List Char) : String :=
  match name with
  | i :: s :: rest =>
    if i.toLower = 'i' && s.toLower = 's' then
      let rest := significant rest
      if rest = "c" then "isc" else rest
    else significant name
  | _ => significant name

def findSet (table : List (List String × CharSet)) (name : String) : Option CharSet :=
  (table.find? (·.1.contains name)).map (·.2)

def generalCategory? : String → Option CharSet
  | "any" => some .all
  | "ascii" => some (.ranges [(0, 0x7F)])
  | name => findSet generalCategories name

def script? (name : String) : Option CharSet :=
  findSet scripts name

def scriptExtension? (name : String) : Option CharSet :=
  findSet scriptExtensions name <|> script? name

/-- Three names belong to a general category although they also abbreviate a property. -/
def property? (name : String) : Option CharSet :=
  if name ∈ ["cf", "sc", "lc"] then none
  else if name ∈ ["whitespace", "wspace", "space"] then some whiteSpace
  else findSet properties name

/-- A character is of an age if that version or one before it added the character. -/
def age? (name : String) : Option CharSet :=
  if ages.any (·.1.contains name) then
    let later := ages.dropWhile (!·.1.contains name)
    let upTo := ages.take (ages.length - later.length + 1)
    some (.any (upTo.map (·.2)))
  else none

def named? (name : List Char) : Option CharSet :=
  let name := looseName name
  property? name <|> generalCategory? name <|> script? name

def valued? (property value : List Char) : Option CharSet :=
  let value := looseName value
  match looseName property with
  | "gc" | "generalcategory" => generalCategory? value
  | "sc" | "script" => script? value
  | "scx" | "scriptextensions" => scriptExtension? value
  | "age" => age? value
  | "gcb" | "graphemeclusterbreak" => findSet graphemeBreaks value
  | "wb" | "wordbreak" => findSet wordBreaks value
  | "sb" | "sentencebreak" => findSet sentenceBreaks value
  | _ => none

/-- What may stand in a word: letters, marks, digits, connectors and joiners. -/
def wordCharacter : CharSet :=
  .any [alphabetic, mark, decimalNumber, connectorPunctuation, joinControl]

/-- The same for plain seven-bit text. -/
def asciiWordCharacter : CharSet :=
  .any [.range 'a' 'z', .range 'A' 'Z', .range '0' '9', .single '_']

end Straggler.Unicode
