import Courier.Command.Run

/-!
# The program

Gives the command line, the environment and the file that the command line names to `Command.run`,
and writes what comes out. It assembles requests and has no line to a network, so a request that is not
only described is reported as not sent.
-/

open Courier

/-- The file that a command line takes the body of its request from. -/
def bodyFile? (env : String → Option String) (args : List String) : Option String :=
  match Command.Invocation.parse env args with
  | .ok ⟨_, _, _, .request ⟨_, _, _, _, some (.file name), _, _⟩⟩ => some name
  | _ => none

/-- The wording of the operating system for a failure, with its number. -/
def reasonOf : IO.Error → String
  | .noFileOrDirectory _ code details | .permissionDenied _ code details
  | .inappropriateType _ code details => details ++ " (os error " ++ toString code ++ ")"
  | e => toString e

/-- Opens a file and reads it. A directory, for one, is opened and fails when it is read. -/
def openFile (name : String) : IO Command.Opened := do
  match ← (IO.FS.Handle.mk name .read).toBaseIO with
  | .error e => return .refused (reasonOf e)
  | .ok handle =>
    match ← handle.readBinToEnd.toBaseIO with
    | .ok bytes => return .stream [.chunk bytes.toList]
    | .error e => return .stream [.failed (reasonOf e)]

def main (args : List String) : IO UInt32 := do
  let url ← IO.getEnv Command.serviceVariable
  let token ← IO.getEnv Command.tokenVariable
  let env (name : String) : Option String :=
    if name = Command.serviceVariable then url
    else if name = Command.tokenVariable then token
    else none
  let file : Command.Opened ←
    match bodyFile? env args with
    | some name => openFile name
    | none => pure (.stream [])
  let outcome := Command.run env (fun _ => file) (fun _ => none) args
  IO.print outcome.output
  IO.eprint outcome.errors
  return outcome.exit.toUInt32
