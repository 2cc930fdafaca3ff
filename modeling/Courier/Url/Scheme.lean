import Courier.Text.Percent

/-!
# Schemes and the characters that stay as they are

The special schemes have a host, a default port and a path that is never empty, and take a backslash
for a slash. Each component of a URL has its own set of characters that are kept; all others are
percent-encoded.
-/

namespace Courier.Url

/-- How the rest of a URL is read after its scheme. -/
inductive Kind
  /-- A special scheme with a host. -/
  | web
  /-- The scheme of files. -/
  | file
  /-- Every other scheme. -/
  | other
  deriving DecidableEq, Repr

/-- The special schemes that need a host, with their default ports. -/
def defaultPorts : List (String × Nat) :=
  [("http", 80), ("https", 443), ("ws", 80), ("wss", 443), ("ftp", 21)]

def Kind.ofScheme (scheme : String) : Kind :=
  if scheme = "file" then .file
  else if (defaultPorts.lookup scheme).isSome then .web
  else .other

def Kind.isSpecial : Kind → Bool
  | .other => false
  | _ => true

/-- Characters that are left out wherever they stand: tabs and line breaks. -/
def isIgnored (c : Char) : Bool := c = '\t' || c = '\n' || c = '\r'

def clean (t : Text) : Text := t.filter (!isIgnored ·)

/-- The character that separates path segments; in special schemes also the backslash. -/
def isSeparator (k : Kind) (c : Char) : Bool := c = '/' || (c = '\\' && k.isSpecial)

/-! ### Kept characters -/

def pathKeep (c : Char) : Bool :=
  Percent.isPlain c && c ∉ [' ', '"', '#', '<', '>', '?', '\x60', '{', '}']

/-- Characters kept in a segment that is added to a path as a whole. -/
def segmentKeep (k : Kind) (c : Char) : Bool :=
  pathKeep c && !isSeparator k c && c ≠ '%'

def userinfoKeep (c : Char) : Bool :=
  pathKeep c && c ∉ ['/', ':', ';', '=', '@', '[', '\\', ']', '^', '|']

def queryKeep (k : Kind) (c : Char) : Bool :=
  Percent.isPlain c && c ∉ [' ', '"', '#', '<', '>'] && !(c = '\x27' && k.isSpecial)

def fragmentKeep (c : Char) : Bool :=
  Percent.isPlain c && c ∉ [' ', '"', '<', '>', '\x60']

end Courier.Url
