import Courier.Text.Utf8

/-!
# Header fields

Names of header fields are tokens and are compared in lower case; values hold no controls except the
tab. In a `Headers` list every name is in lower case; `Headers.insert` keeps one value for a name, and
`Headers.append` keeps all of them.
-/

namespace Courier

def isTokenChar (c : Char) : Bool :=
  c.isAlphanum
    || c ∈ ['!', '#', '$', '%', '&', '\x27', '*', '+', '-', '.', '^', '_', '\x60', '|', '~']

/-- Whether a text is a token: tokens are not empty. -/
def isToken (s : String) : Bool :=
  !s.isEmpty && s.toList.all isTokenChar

def maxHeaderName : Nat := 65535

/-- A header name in lower case, if the text is one. -/
def headerName? (s : String) : Option String :=
  if isToken s && s.length ≤ maxHeaderName then some (String.ofList (s.toList.map Char.toLower))
  else none

/-- Whether a text is the value of a header: no control except the tab. -/
def isHeaderValue (s : String) : Bool :=
  s.toList.all fun c => c = '\t' || (' ' ≤ c && c ≠ '\x7f')

/-- Header fields: names in lower case with their values. -/
abbrev Headers := List (String × String)

namespace Headers

/-- Sets the only value of a name; a new name goes to the end. -/
def insert (name value : String) : Headers → Headers
  | [] => [(name, value)]
  | (n, v) :: rest => if n = name then (n, value) :: rest else (n, v) :: insert name value rest

/-- Adds a value behind the others of its name. -/
def append (hs : Headers) (name value : String) : Headers := hs ++ [(name, value)]

/-- The first value of a name. -/
def get? (name : String) (hs : Headers) : Option String := hs.lookup name

/-- The fields in the order of their names; the values of one name keep theirs. -/
def sorted (hs : Headers) : Headers := hs.mergeSort fun a b => a.1 ≤ b.1

end Headers

end Courier
