import Courier.Number.Notation
import Courier.Text.Form
import Courier.Url.Host
import Courier.Url.Path

/-!
# URLs

A URL by its components. `Url.text` writes it; only the path, the query and the fragment are ever
changed once a URL is read.
-/

namespace Courier

namespace Url

/-- Where a URL points: a host with an optional port, and who asks. An empty password is none. -/
structure Authority where
  username : Text
  password : Text
  host : Host
  port : Option Nat
  deriving DecidableEq, Repr

inductive Path
  /-- A path without segments of its own, as behind `mailto:`. -/
  | plain (text : Text)
  /-- The segments behind slashes. -/
  | segments (list : List Text)
  deriving DecidableEq, Repr

end Url

structure Url where
  scheme : String
  authority : Option Url.Authority
  /-- Whether the path is written behind `/.`, so that its first, empty segment is not taken for the
  start of an authority. -/
  guarded : Bool
  path : Url.Path
  query : Option Text
  fragment : Option Text
  deriving DecidableEq, Repr

namespace Url

def kind (u : Url) : Kind := Kind.ofScheme u.scheme

/-- An authority behind its two slashes. -/
def Authority.text (a : Authority) : Text :=
  let password := if a.password.isEmpty then [] else ':' :: a.password
  let user := a.username ++ password
  (if user.isEmpty then [] else user ++ ['@'])
    ++ a.host.text
    ++ (match a.port with
      | some p => ':' :: natText p
      | none => [])

def Path.text : Path → Text
  | .plain t => t
  | .segments list => segmentsText list

def pathText (u : Url) : Text := u.path.text

/-- The components of a URL before its path. -/
def frontText (u : Url) : Text :=
  u.scheme.toList ++ ':' ::
    ((match u.authority with
      | some a => '/' :: '/' :: a.text
      | none => [])
      ++ (if u.guarded then "/.".toList else []))

/-- A query or a fragment behind its sign. -/
def suffixText (sign : Char) : Option Text → Text
  | some t => sign :: t
  | none => []

def text (u : Url) : Text :=
  u.frontText ++ u.pathText ++ suffixText '?' u.query ++ suffixText '#' u.fragment

def toText (u : Url) : String := String.ofList u.text

/-- Path and query, as they are sent to the host. -/
def target (u : Url) : String :=
  String.ofList (u.pathText ++ suffixText '?' u.query)

/-- The segments of a path, if it has any of its own. -/
def segments? (u : Url) : Option (List Text) :=
  match u.path with
  | .plain _ => none
  | .segments list => some list

def withSegments (u : Url) (segments : List Text) : Url :=
  { u with path := .segments segments }

/-- Appends form entries to the query; an empty list leaves the URL as it is. -/
def appendQuery (u : Url) (entries : List (Text × Option Text)) : Url :=
  if entries.isEmpty then u
  else { u with query := some (Form.appendAll (u.query.getD []) entries) }

end Url

end Courier
