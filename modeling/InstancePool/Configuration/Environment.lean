import InstancePool.Configuration.Environment.Line
import InstancePool.Dict
import InstancePool.Files
import InstancePool.Text.Blank

/-!
# Environments

Settings come as variables: from the process, and from a file of lines `KEY=VALUE` in the working
directory. A variable that is set already wins over the file, even if it is empty, and so does an
earlier line over a later one. A line may refer to any variable that is set when it is read.
-/

namespace InstancePool

/-- Variables and their values. -/
abbrev Environment := Dict String String

namespace Environment

/-- What a variable stands for in a line: nothing, if it is not set. -/
def meaning (env : Environment) (name : List Char) : List Char :=
  ((env.get? (String.ofList name)).getD "").toList

/-- The environment with the variables of some lines. -/
def addLines (env : Environment) : List (List Char) → Environment
  | [] => env
  | line :: rest =>
    match Line.ofChars env.meaning line with
    | .nothing => addLines env rest
    | .assignment key value =>
      addLines (if (env.get? key).isSome then env else env.insert key value) rest
    | .malformed => env

/-- The environment with the variables of the file in a directory. Without such a file it stays as it
    is: a file in one of the directories above, which would stand in for it, is not looked for here. -/
def withFile (env : Environment) (directory : String) : Program Files Environment := do
  match ← Files.read s!"{directory}/.env" with
  | .ok text => return env.addLines (Text.lines text.toList)
  | .error _ => return env

/-- The value of a variable without the blanks around it, if anything is left of it. -/
def filled (env : Environment) (key : String) : Option String := (env.get? key).bind Text.filled

end Environment

end InstancePool
