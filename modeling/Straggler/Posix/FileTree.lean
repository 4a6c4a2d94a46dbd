import Straggler.Posix.SystemError

/-!
# File trees

Files and directories under one root, and the walk that the system makes to find what a path
names: part by part, each but the last of them in a directory.
-/

namespace Straggler.Posix

set_option autoImplicit false

inductive Node
  | directory
  | file (content : ByteArray) (executable : Bool)

namespace Node

def isDirectory : Node → Bool
  | directory => true
  | file _ _ => false

end Node

abbrev Place :=
  List String

/-- What there is below the root, which is always a directory. -/
structure FileTree where
  nodes : List (Place × Node) := []

def pathParts (path : List Char) : List (List Char) :=
  match path with
  | [] => [[]]
  | c :: cs =>
    if c = '/' then [] :: pathParts cs
    else
      match pathParts cs with
      | part :: parts => (c :: part) :: parts
      | [] => [[c]]

namespace FileTree

def find? (t : FileTree) (place : Place) : Option Node :=
  if place.isEmpty then some .directory else t.nodes.lookup place

/-- Puts a node into the tree, and the directories on the way to it that are not there yet. -/
def put (t : FileTree) (place : Place) (node : Node) : FileTree :=
  let above := (List.range place.length).map place.take
  let missing := above.filter fun p => (t.find? p).isNone
  { nodes := (place, node) :: missing.map (·, Node.directory) ++ t.nodes.filter (·.1 != place) }

def placeOf (path : String) : Place :=
  ((pathParts path.toList).filter (!·.isEmpty)).map String.ofList

def putAt (t : FileTree) (path : String) (node : Node) : FileTree :=
  t.put (placeOf path) node

def maxName : Nat :=
  255

def maxPath : Nat :=
  4096

/-- One part of a path. The parts that name no entry need a directory to stand in all the same. -/
def walkPart (t : FileTree) (here : Place) (part : String) : Except SystemError Place :=
  match t.find? here with
  | none => .error .noSuchFile
  | some node =>
    if !node.isDirectory then .error .notADirectory
    else if part = "" || part = "." then .ok here
    else if part = ".." then .ok here.dropLast
    else if maxName < part.utf8ByteSize then .error .nameTooLong
    else if (t.find? (here ++ [part])).isSome then .ok (here ++ [part])
    else .error .noSuchFile

def unexpectedNul : SystemError :=
  .described .invalidInput "file name contained an unexpected NUL byte"

def resolve (t : FileTree) (cwd : Place) (path : String) : Except SystemError Place :=
  if path.toList.contains '\x00' then .error unexpectedNul
  else if path.isEmpty then .error .noSuchFile
  else if maxPath ≤ path.utf8ByteSize then .error .nameTooLong
  else
    let start := if path.startsWith "/" then [] else cwd
    ((pathParts path.toList).map String.ofList).foldlM t.walkPart start

def read (t : FileTree) (cwd : Place) (path : String) : Except SystemError ByteArray := do
  match t.find? (← t.resolve cwd path) with
  | some (.file content _) => return content
  | some .directory => throw .isADirectory
  | none => throw .noSuchFile

end FileTree

end Straggler.Posix
