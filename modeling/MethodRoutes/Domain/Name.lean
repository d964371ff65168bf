import MethodRoutes.Domain.Composition
import MethodRoutes.Domain.Direction
import MethodRoutes.Domain.Joining
import MethodRoutes.Domain.Mapping
import MethodRoutes.Domain.Marks
import MethodRoutes.Domain.Punycode

/-!
# Domain names

A domain name is looked up in ASCII. Its characters are mapped and composed, and its labels are
checked; a label with characters beyond ASCII is then written in its ASCII form. A label that is
given in that form has to be the form of a label that needs it.

## Main definitions

* `Domain.ofText?` — the form in which a domain name is looked up
-/

namespace MethodRoutes.Domain

/-- The parts of a text between its points. -/
def labelsOf : List Char → List (List Char)
  | [] => [[]]
  | c :: rest =>
    if c = '.' then [] :: labelsOf rest
    else
      match labelsOf rest with
      | [] => [[c]]
      | label :: labels => (c :: label) :: labels

/-- Whether a text is in ASCII. -/
def isAscii (text : List Char) : Bool := text.all (·.toNat < 0x80)

/-- A text with its characters mapped and composed, unless it has one that may not occur. -/
def normalize? (text : List Char) : Option (List Char) := do
  let mapped ← text.mapM mapping?
  return compose mapped.flatten

/-- What the ASCII form of a label starts with. -/
def asciiMark : List Char := ['x', 'n', '-', '-']

/-- The label behind an ASCII form. It is not in ASCII, and normal. -/
def reveal? (label : List Char) : Option (List Char) := do
  if asciiMark.isPrefixOf label then
    let revealed ← Punycode.decode? (label.drop 4)
    -- The form has to be needed, and it has to be the one that writing would give.
    if isAscii revealed then none
    else if (← normalize? revealed) = revealed then some revealed
    else none
  else some label

/-- Whether a character cannot stand in a label. -/
def isForbidden (c : Char) : Bool :=
  c.toNat ≤ 0x20 || c.toNat = 0x7F || "%#/:<>?@[\\]^|".toList.contains c

/-- Whether a label can be one, apart from its direction. -/
def isLabel (label : List Char) : Bool :=
  !label.any isForbidden && !(label.head?.map isMark).getD false && joinersFit label

/-- A label in ASCII. -/
def conceal (label : List Char) : List Char :=
  if isAscii label then label else asciiMark ++ Punycode.encode label

/-- The form in which a domain name is looked up, if it is one. -/
def ofText? (text : List Char) : Option (List Char) := do
  let labels ← (labelsOf (← normalize? text)).mapM reveal?
  if labels.all isLabel && (!isBidirectional labels || labels.all keepsDirection) then
    return (['.'] : List Char).intercalate (labels.map conceal)
  else none

end MethodRoutes.Domain
