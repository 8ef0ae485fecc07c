import InstancePool.Dict
import InstancePool.Program
import InstancePool.Text.Blank

/-!
# Files

A secret and the host aliases may stand in files. What is done with a file is to read its whole text or
to replace it, and each of the two is one step, between which others may act.

* `Files`: the two questions, and `Files.Refusal`: why a file system does not do as it is asked;
* `Files.Tree`: a file system in memory, and how it answers.
-/

namespace InstancePool

namespace Files

/-- Why a file cannot be read or written. -/
inductive Refusal where
  | missing
  | notDirectory
  | isDirectory
  /-- A path or one of its names is too long. -/
  | nameTooLong
  /-- A path has a character that no name may have. -/
  | badName
  /-- The contents are not UTF-8. -/
  | notText
deriving DecidableEq, Repr

/-- What the system says about it. -/
def Refusal.text : Refusal → String
  | missing => "No such file or directory (os error 2)"
  | notDirectory => "Not a directory (os error 20)"
  | isDirectory => "Is a directory (os error 21)"
  | nameTooLong => "File name too long (os error 36)"
  | badName => "file name contained an unexpected NUL byte"
  | notText => "stream did not contain valid UTF-8"

instance : ToString Refusal := ⟨Refusal.text⟩

/-- A question to a file system. -/
inductive Query where
  | read (path : String)
  | write (path contents : String)

end Files

/-- A file system. -/
@[reducible] def Files : Interface where
  Query := Files.Query
  Reply
    | .read _ => Except Files.Refusal String
    | .write _ _ => Except Files.Refusal Unit

namespace Files

/-- The text of a file. -/
def read (path : String) : Program Files (Except Refusal String) := .ask (.read path) .done

/-- Replaces the text of a file, which is created if need be. -/
def write (path contents : String) : Program Files (Except Refusal Unit) :=
  .ask (.write path contents) .done

/-! ## A file system in memory -/

/-- What stands at a place. -/
inductive Node where
  /-- A file with its text, if it is a text. -/
  | file (contents : Option String)
  | directory

/-- What stands where. A place is named by the steps that lead to it from the root, with slashes
    between them. The root itself is always a directory. -/
structure Tree where
  nodes : Dict String Node := ∅
  /-- The steps to the directory in which a path without a slash at its start begins. -/
  workingDirectory : List String := []

namespace Tree

/-- A path takes fewer bytes than this. -/
def pathLimit : Nat := 4096

/-- A name takes no more bytes than this. -/
def nameLimit : Nat := 255

/-- The steps that a path asks for. Several slashes count as one. -/
def steps (path : String) : List String :=
  ((Text.pieces (· == '/') path.toList).map String.ofList).filter (· ≠ "")

/-- Whether a path ends in a slash and can only name a directory. -/
def namesDirectory (path : String) : Bool := path.toList.getLast? = some '/'

/-- What stands at a place. -/
def node? (t : Tree) (place : List String) : Option Node :=
  if place.isEmpty then some .directory else t.nodes.get? ("/".intercalate place)

/-- The place one step away. Only a directory can be stepped from. A point stays in it and two points
    go back to the one that holds it, which for the root is the root itself. -/
def step (t : Tree) (place : List String) (name : String) : Except Refusal (List String) :=
  match t.node? place with
  | none => .error .missing
  | some (.file _) => .error .notDirectory
  | some .directory =>
    if name = "." then .ok place
    else if name = ".." then .ok place.dropLast
    else if nameLimit < name.utf8ByteSize then .error .nameTooLong
    else .ok (place ++ [name])

/-- The place that a path leads to. Something need not stand there. -/
def follow (t : Tree) (path : String) : Except Refusal (List String) :=
  if path.toList.contains '\x00' then .error .badName
  else if path.isEmpty then .error .missing
  else if pathLimit ≤ path.utf8ByteSize then .error .nameTooLong
  else
    let start := if path.toList.head? = some '/' then [] else t.workingDirectory
    (steps path).foldlM t.step start

/-- The tree with something at a place. -/
def put (t : Tree) (place : List String) (node : Node) : Tree :=
  { t with nodes := t.nodes.insert ("/".intercalate place) node }

/-- The text at a path. -/
def read (t : Tree) (path : String) : Except Refusal String := do
  match t.node? (← t.follow path) with
  | none => .error .missing
  | some .directory => .error .isDirectory
  | some (.file contents) =>
    if namesDirectory path then .error .notDirectory
    else
      match contents with
      | none => .error .notText
      | some contents => .ok contents

/-- The tree with another text at a path. -/
def write (t : Tree) (path contents : String) : Except Refusal Tree := do
  let place ← t.follow path
  if namesDirectory path then .error .isDirectory
  else
    match t.node? place with
    | some .directory => .error .isDirectory
    | _ => .ok (t.put place (.file (some contents)))

/-- What a question is answered with. -/
def answer : (q : Files.Query) → StateM Tree (Files.Reply q)
  | .read path => fun t => (t.read path, t)
  | .write path contents => fun t =>
    match t.write path contents with
    | .ok t => (.ok (), t)
    | .error refusal => (.error refusal, t)

/-- What a program ends with, and the tree after it. -/
def run {α : Type} (t : Tree) (p : Program Files α) : Except Fault α × Tree := (p.run answer).run t

end Tree

end Files

end InstancePool
