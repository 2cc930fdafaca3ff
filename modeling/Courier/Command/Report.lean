import Courier.Error

/-!
# Reports

What a command says when it fails: a statement of what was tried, and the causes behind it, each one
behind the other.
-/

namespace Courier.Command

/-- A failure and its causes, the outermost first. -/
structure Report where
  summary : String
  causes : List String
  deriving DecidableEq, Repr

namespace Report

/-- The report of an error: its wording, and that of the error it wraps. -/
def ofError (e : Error) : Report := ⟨e.message, e.cause?.toList⟩

/-- What was tried when a failure came up. -/
def within (context : String) (r : Report) : Report := ⟨context, r.summary :: r.causes⟩

/-- A cause whose first line stands behind a label and whose other lines are indented. -/
def indent (label margin cause : String) : String :=
  label ++ ("\n" ++ margin).intercalate (cause.splitOn "\n")

/-- The causes: a single one bare, several with numbers. -/
def causeLines : List String → List String
  | [] => []
  | [cause] => [indent "    " "    " cause]
  | causes =>
    causes.zipIdx.map fun (cause, i) =>
      let number := toString i
      indent (String.ofList (List.replicate (5 - number.length) ' ') ++ number ++ ": ") "       " cause

def text (r : Report) : String :=
  let causes :=
    if r.causes.isEmpty then ""
    else "\n\nCaused by:\n" ++ "\n".intercalate (causeLines r.causes)
  "Error: " ++ r.summary ++ causes ++ "\n"

end Report

end Courier.Command
