import InstancePool.Address
import InstancePool.Files

/-!
# Hosts files

Under which address a host is reached may be recorded in a file of the common form: a line holds an
address and, after blanks, the names it has. The file belongs to other programs as well, so a new
record replaces the lines that name the host and leaves every other line as it is.

* `HostsFile.record`: the text with a new record;
* `HostsFile.upsert`: reading the file, where a missing one is empty, and writing it.
-/

namespace InstancePool.HostsFile

/-- The names in a line. -/
def names (line : List Char) : List (List Char) := (Text.words line).drop 1

/-- The line of a record. -/
def line (hostname : String) (ip : Address) : List Char := ip.renderChars ++ ' ' :: hostname.toList

/-- The lines that do not name a host. -/
def others (hostname : String) (contents : List Char) : List (List Char) :=
  (Text.lines contents).filter fun line => !(names line).contains hostname.toList

/-- The text with a new record in place of those of the same host. -/
def record (contents hostname : String) (ip : Address) : String :=
  String.ofList
    ((others hostname contents.toList ++ [line hostname ip]).flatMap fun line => line ++ ['\n'])

/-- Records the address of a host in a file. -/
def upsert (path hostname : String) (ip : Address) : Program Files Unit := do
  let contents ←
    match ← Files.read path with
    | .ok contents => pure contents
    | .error .missing => pure ""
    | .error refusal => .fail (.cloud s!"reading hosts file {path}: {refusal}")
  match ← Files.write path (record contents hostname ip) with
  | .ok () => return ()
  | .error refusal => .fail (.cloud s!"writing hosts file {path}: {refusal}")

end InstancePool.HostsFile
