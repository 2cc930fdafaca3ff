import Courier.Text.Canonical
import Courier.Url.Domain.Direction
import Courier.Url.Domain.Joining
import Courier.Url.Domain.Mapping
import Courier.Url.Punycode

/-!
# Domain names

A domain name is compared and sent in its ASCII form: labels between dots, a label with other
characters as `xn--` and its Punycode form. Names that differ in case or in the spelling of a
character have the same form.
-/

namespace Courier.Url.Domain

/-- Characters that no domain name may contain. -/
def isForbidden (c : Char) : Bool :=
  c ≤ ' ' || c = '\x7f'
    || c ∈ ['#', '%', '/', ':', '<', '>', '?', '@', '[', '\\', ']', '^', '|']

/-- The mark in front of a label in Punycode. -/
def mark : Text := "xn--".toList

/-- Whether a text needs no Punycode. -/
def isAscii (t : Text) : Bool :=
  t.all (·.toNat < 0x80)

/-- The longest label that is written in Punycode. -/
def maxLabel : Nat := 1000

/-- The longest Punycode that is read. -/
def maxCode : Nat := 2000

/-- The rule for each label: it does not begin with a combining mark, and its joiners show. -/
def isLabel (t : Text) : Bool :=
  !t.head?.any Mark.isMark && areJoinersShown [] t && (isAscii t || t.length ≤ maxLabel)

/-- The label that a Punycode form stands for: one that is not ASCII, is not itself marked, and would
be left as it is by reading it. -/
def ofPunycode? (code : Text) : Option Text :=
  if !isAscii code || code.getLast? = some '-' || maxCode < code.length then none
  else do
    let t ← Punycode.decode? code
    if isAscii t || mark.isPrefixOf t || !t.all isKept || Canonical.compose t ≠ t then none
    else return t

def label? (t : Text) : Option Text := do
  let t ← if mark.isPrefixOf t then ofPunycode? (t.drop mark.length) else some t
  if isLabel t then return t else none

def labelToAscii (t : Text) : Text :=
  if isAscii t then t else mark ++ Punycode.encode t

def labels? (t : Text) : Option (List Text) := do
  let mapped ← t.mapM map?
  let labels ← ((Canonical.compose mapped.flatten).splitOn '.').mapM label?
  if areDirected labels then return labels else none

def toAscii? (t : Text) : Option Text := do
  let labels ← labels? t
  let name := ['.'].intercalate (labels.map labelToAscii)
  if name.any isForbidden then none else return name

end Courier.Url.Domain
