import Courier.Url.Basic

/-!
# Reading URLs

`Url.parse?` reads an absolute URL and brings its components to their encoded forms. Controls and blanks
around the text, and tabs and line breaks inside it, are left out.
-/

namespace Courier.Url

/-- The text without the controls and blanks at its ends. -/
def trimEnds (t : Text) : Text :=
  ((t.dropWhile (· ≤ ' ')).reverse.dropWhile (· ≤ ' ')).reverse

/-- Characters of a scheme after its first letter. -/
def isSchemeChar (c : Char) : Bool :=
  c.isAlphanum || c = '+' || c = '-' || c = '.'

/-- Reads a scheme and its colon: the scheme in lower case, and the rest. -/
def readScheme? (t : Text) : Option (String × Text) :=
  if !(t.head?.any Char.isAlpha) then none
  else
    match t.dropWhile isSchemeChar with
    | ':' :: rest => some (String.ofList ((t.takeWhile isSchemeChar).map Char.toLower), rest)
    | _ => none

/-! ### Behind the path -/

def endsPath (c : Char) : Bool := c = '?' || c = '#'

def readQuery (k : Kind) (t : Text) : Option Text :=
  match t with
  | '?' :: r => some (Percent.encode (queryKeep k) (r.takeWhile (· ≠ '#')))
  | _ => none

def readFragment (t : Text) : Option Text :=
  match t.dropWhile (· ≠ '#') with
  | '#' :: r => some (Percent.encode fragmentKeep r)
  | _ => none

/-- The URL whose path, query and fragment are read from a text. Without an authority, a path that
starts with an empty segment is guarded. -/
def complete (scheme : String) (authority : Option Authority) (t : Text) : Url :=
  let k := Kind.ofScheme scheme
  let segments := parsePath k (t.takeWhile (!endsPath ·))
  let rest := t.dropWhile (!endsPath ·)
  { scheme
    authority
    guarded := authority.isNone && 1 < segments.length && segments.head? = some []
    path := .segments segments
    query := readQuery k rest
    fragment := readFragment rest }

/-! ### The authority -/

def endsAuthority (k : Kind) (c : Char) : Bool := isSeparator k c || endsPath c

/-- The texts before and after the last at sign. -/
def splitAtSign (t : Text) : Option (Text × Text) :=
  if t.contains '@' then
    let host := (t.reverse.takeWhile (· ≠ '@')).reverse
    some (t.take (t.length - host.length - 1), host)
  else none

/-- Reads the user name and the password in front of a host. An at sign with nothing before it must
have something of the authority behind it. -/
def readUser? (k : Kind) (t : Text) : Option (Text × Text × Text) :=
  match splitAtSign (t.takeWhile (!endsAuthority k ·)) with
  | none => some ([], [], t)
  | some (user, host) =>
    let rest := host ++ t.dropWhile (!endsAuthority k ·)
    if user.isEmpty then
      if rest.head?.any (endsAuthority k) then none else some ([], [], rest)
    else
      some (Percent.encode userinfoKeep (user.takeWhile (· ≠ ':')),
        Percent.encode userinfoKeep ((user.dropWhile (· ≠ ':')).drop 1), rest)

/-- The length of the host at the start of a text. A colon between brackets belongs to it. -/
def hostLength (k : Kind) : Bool → Text → Nat
  | _, [] => 0
  | inside, c :: t =>
    if endsAuthority k c || (c = ':' && !inside) then 0
    else hostLength k (if c = '[' then true else if c = ']' then false else inside) t + 1

/-- Reads the port behind a host: none if it is missing, empty or the default one of the scheme. -/
def readPort? (scheme : String) (t : Text) : Option (Option Nat × Text) :=
  match t with
  | ':' :: r =>
    let digits := r.takeWhile Char.isDigit
    let rest := r.dropWhile Char.isDigit
    let port := digitsValue digits
    if 65535 < port || rest.head?.any (fun c => !(endsPath c || c = '/' || c = '\\')) then none
    else if digits.isEmpty || defaultPorts.lookup scheme = some port then some (none, rest)
    else some (some port, rest)
  | _ => some (none, t)

/-- Reads what stands behind the two slashes of a scheme that is not that of files. A special scheme
needs a host; elsewhere a port, a user name and a password need one. -/
def readBehindSlashes? (scheme : String) (t : Text) : Option Url := do
  let k := Kind.ofScheme scheme
  let (username, password, t) ← readUser? k t
  let n := hostLength k false t
  let host ← if k.isSpecial then Host.parseSpecial? (t.take n) else Host.parseOther? (t.take n)
  if host = .empty && ((t.drop n).head? = some ':' || !username.isEmpty || !password.isEmpty) then
    none
  else
    let (port, rest) ← readPort? scheme (t.drop n)
    return complete scheme (some ⟨username, password, host, port⟩) rest

/-! ### Files -/

def fileHost (host : Host) : Option Authority := some ⟨[], [], host, none⟩

/-- Reads the host of a file: none for the local one. -/
def readFileHost? (t : Text) : Option Host :=
  if t.isEmpty then some .empty
  else do
    let host ← Host.parseSpecial? t
    return if host = .domain "localhost".toList then .empty else host

/-- Reads what stands behind the scheme of files. The host stands behind two slashes; a drive letter
is no host, and a path that starts with one has none. -/
def readFile? (t : Text) : Option Url :=
  match t with
  | a :: b :: r =>
    if isSeparator .file a && isSeparator .file b then
      let name := r.takeWhile (!endsAuthority .file ·)
      if isDrive name then some (complete "file" (fileHost .empty) r)
      else do
        let host ← readFileHost? name
        let rest := r.dropWhile (!endsAuthority .file ·)
        let drive := (rawPath .file (rest.takeWhile (!endsPath ·))).head?.any isDrive
        return complete "file" (fileHost (if drive then .empty else host)) rest
    else some (complete "file" (fileHost .empty) t)
  | _ => some (complete "file" (fileHost .empty) t)

/-! ### Whole URLs -/

/-- Reads a URL without segments of its own. -/
def readPlain (scheme : String) (t : Text) : Url :=
  let rest := t.dropWhile (!endsPath ·)
  { scheme
    authority := none
    guarded := false
    path := .plain (Percent.encode Percent.isPlain (t.takeWhile (!endsPath ·)))
    query := readQuery .other rest
    fragment := readFragment rest }

/-- Reads an absolute URL. -/
def parse? (s : String) : Option Url := do
  let (scheme, rest) ← readScheme? (clean (trimEnds s.toList))
  match Kind.ofScheme scheme with
  | .file => readFile? rest
  | .web => readBehindSlashes? scheme (rest.dropWhile (isSeparator .web))
  | .other =>
    match rest with
    | '/' :: '/' :: r => readBehindSlashes? scheme r
    | '/' :: _ => return complete scheme none rest
    | _ => return readPlain scheme rest

end Courier.Url
