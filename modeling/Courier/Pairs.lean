import Courier.Error

/-!
# Pairs of names and values

Two forms in which callers give named values: a flat list in which names and values take turns, and
single texts `name=value`.
-/

namespace Courier.Pairs

/-- Splits a flat list of names and values into pairs. -/
def ofFlat : List String → Except Error (List (String × String))
  | [] => .ok []
  | [_] => .error .oddArguments
  | name :: value :: rest => do return (name, value) :: (← ofFlat rest)

/-- Splits a text at its first equals sign. -/
def split? (s : String) : Option (String × String) :=
  let t := s.toList
  if t.contains '=' then
    some (String.ofList (t.takeWhile (· ≠ '=')), String.ofList ((t.dropWhile (· ≠ '=')).drop 1))
  else none

end Courier.Pairs
