import Courier.Text.Percent

/-!
# Path templates

A template is a path with placeholders: names between braces. The value of a placeholder is written as
one path segment, so that nothing in it is taken for a separator or the end of the path.
-/

namespace Courier.Template

def valueKeep (c : Char) : Bool :=
  c.isAlphanum
    || c ∈ ['-', '.', '_', '~', '!', '$', '&', '\x27', '(', ')', '*', '+', ',', ';', '=', ':', '@']

/-- A value as a path segment. -/
def encodeValue (value : Text) : Text := Percent.encode valueKeep value

def placeholder (name : Text) : Text := '{' :: (name ++ ['}'])

/-- Replaces every occurrence of a text that is not empty, from left to right. -/
def replaceAll (old new : Text) (t : Text) : Text :=
  match t with
  | [] => []
  | c :: r =>
    if old.isPrefixOf (c :: r) then new ++ replaceAll old new (r.drop (old.length - 1))
    else c :: replaceAll old new r
termination_by t.length
decreasing_by all_goals simp only [List.length_drop, List.length_cons]; omega

/-- Replaces the placeholders of one name. -/
def substitute (t : Text) (name value : Text) : Text :=
  replaceAll (placeholder name) (encodeValue value) t

/-- The pieces of a path between slashes, without the empty ones before the last piece. -/
def pieces (t : Text) : List Text :=
  let all := t.splitOn '/'
  all.dropLast.filter (!·.isEmpty) ++ all.getLast?.toList

end Courier.Template
