import Courier.Json.Printer

/-!
# JSON Patch documents

A patch document is a list of operations. `Patch.render` writes the fields of an operation in the
order `op`, `path`, `from`, `value`, without those it does not have.
-/

namespace Courier

/-- What an operation of a patch document does. -/
inductive PatchKind
  | add
  | remove
  | replace
  | move
  | copy
  | test
  deriving DecidableEq, Repr

namespace PatchKind

def all : List PatchKind := [add, remove, replace, move, copy, test]

def name : PatchKind → String
  | add => "add"
  | remove => "remove"
  | replace => "replace"
  | move => "move"
  | copy => "copy"
  | test => "test"

def ofName? (s : String) : Option PatchKind := all.find? (·.name = s)

end PatchKind

structure PatchOperation where
  kind : PatchKind
  path : String
  source : Option String
  value : Option Json
  deriving DecidableEq, Repr

namespace PatchOperation

def add (path : String) (value : Json) : PatchOperation := ⟨.add, path, none, some value⟩

def replace (path : String) (value : Json) : PatchOperation := ⟨.replace, path, none, some value⟩

def test (path : String) (value : Json) : PatchOperation := ⟨.test, path, none, some value⟩

def remove (path : String) : PatchOperation := ⟨.remove, path, none, none⟩

def moveFrom (source path : String) : PatchOperation := ⟨.move, path, some source, none⟩

def copyFrom (source path : String) : PatchOperation := ⟨.copy, path, some source, none⟩

/-- The fields of an operation in the order in which they are written. -/
def members (o : PatchOperation) : List (String × Json) :=
  [("op", .string o.kind.name), ("path", .string o.path)]
    ++ (o.source.map fun s => ("from", Json.string s)).toList
    ++ (o.value.map fun v => ("value", v)).toList

def render (o : PatchOperation) : Text :=
  '{' :: (Json.renderMembers o.members ++ ['}'])

end PatchOperation

abbrev Patch := List PatchOperation

def Patch.render (p : Patch) : Text :=
  '[' :: ([','].intercalate (p.map PatchOperation.render) ++ [']'])

end Courier
