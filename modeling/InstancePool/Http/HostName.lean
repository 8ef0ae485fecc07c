import InstancePool.Http.HostName.Direction
import InstancePool.Http.HostName.Joining
import InstancePool.Http.HostName.Mapping
import InstancePool.Text.Blank
import InstancePool.Text.Composition
import InstancePool.Text.Punycode

/-!
# Host names

A host name is typed in the letters of any language and sent in ASCII. In between its characters are
mapped to the forms that count, it is composed and cut into labels, a label that is in ASCII already is
decoded, and each label has to pass the tests that keep names from passing for others.

* `decoded?`: a label as it is meant, and `fits`: the tests for one;
* `toAscii?`: a name as it is sent, none if it is not one.
-/

namespace InstancePool.Http.HostName

/-! ## 1. Characters -/

/-- Whether a character is never part of a host. -/
def isForbidden (c : Char) : Bool :=
  c.toNat == 0 || ['\t', '\n', '\r', ' ', '#', '/', ':', '<', '>', '?', '@', '[', '\\', ']', '^',
    '|'].contains c

/-- Whether a character is never part of the name of a host. -/
def isForbiddenInName (c : Char) : Bool :=
  isForbidden c || c.toNat < 0x20 || c == '%' || c.toNat == 0x7F

/-- Whether a character is ASCII. -/
def isAscii (c : Char) : Bool := c.toNat < 0x80

/-! ## 2. Labels -/

/-- What a label in ASCII starts with if it stands for another one. -/
def mark : List Char := ['x', 'n', '-', '-']

/-- No label in ASCII is longer after its mark. -/
def encodedLimit : Nat := 2000

/-- No label with other characters than ASCII is longer. -/
def decodedLimit : Nat := 1000

/-- Whether mapping and composing leave a label as it is. -/
def isStable (label : List Char) : Bool :=
  label.all (fun c => mapChar c == some [c]) && Text.compose label == label

/-- The label that a mapped label stands for. One with a mark has to decode, to a label that is not
    ASCII and that could have been typed. -/
def decoded? (label : List Char) : Option (List Char) :=
  if !mark.isPrefixOf label then some label
  else
    let text := label.drop mark.length
    if !text.all isAscii ∨ encodedLimit < text.length ∨ label.getLast? = some '-' then none
    else (Text.Punycode.decode text).filter isStable

/-- Whether a label passes the tests that it can fail by itself. -/
def fits (label : List Char) : Bool :=
  !label.any (fun c => isForbiddenInName c || c == '.') &&
    !label.head?.any Text.isMark && joinersFit label &&
    (label.all isAscii || label.length ≤ decodedLimit)

/-- A label as it is sent. -/
def encoded (label : List Char) : List Char :=
  if label.all isAscii then label else mark ++ Text.Punycode.encode label

/-! ## 3. Names -/

/-- A name as it is sent. Where any label has letters or digits from right to left, all labels have to
    keep their direction. -/
def toAscii? (name : List Char) : Option (List Char) := do
  let mapped ← name.mapM mapChar
  let labels ← (Text.pieces (· == '.') (Text.compose mapped.flatten)).mapM decoded?
  if !labels.all fits then none
  else if labels.any (·.any turnsLeft) ∧ !labels.all keepsDirection then none
  else return ['.'].intercalate (labels.map encoded)

end InstancePool.Http.HostName
