import Courier.Text.Percent

/-!
# Form encoding

The format `application/x-www-form-urlencoded`: pairs `name=value` joined by `&`, where a space is
written `+` and every byte outside `A-Z a-z 0-9 * - . _` is escaped. `Form.append` adds an entry to
a text of this format and `Form.parse` reads the pairs back.
-/

namespace Courier.Form

/-- Characters that stand for themselves. -/
def isUnreserved (c : Char) : Bool :=
  c.isAlphanum || c = '*' || c = '-' || c = '.' || c = '_'

def encodeChar (c : Char) : Text :=
  if c = ' ' then ['+'] else Percent.encodeChar isUnreserved c

def encode (t : Text) : Text :=
  t.flatMap encodeChar

/-- One entry: a pair, or a bare name. -/
def encodeEntry (name : Text) : Option Text → Text
  | some value => encode name ++ '=' :: encode value
  | none => encode name

/-- Adds an entry to what is written so far, after `&` if anything is written. -/
def append (written : Text) (name : Text) (value : Option Text) : Text :=
  if written.isEmpty then encodeEntry name value
  else written ++ '&' :: encodeEntry name value

def appendAll (written : Text) (entries : List (Text × Option Text)) : Text :=
  entries.foldl (fun out e => append out e.1 e.2) written

/-- A name or a value as it was before encoding. -/
def decode (t : Text) : Text :=
  Utf8.decode (Percent.decode (t.map fun c => if c = '+' then ' ' else c))

/-- The pair that one sequence between `&` signs stands for: what is before and after its first
`=`. -/
def parseEntry (t : Text) : Text × Text :=
  (decode (t.takeWhile (· ≠ '=')), decode ((t.dropWhile (· ≠ '=')).drop 1))

/-- The pairs of a text; empty sequences stand for none. -/
def parse (t : Text) : List (Text × Text) :=
  ((t.splitOn '&').filter (!·.isEmpty)).map parseEntry

end Courier.Form
