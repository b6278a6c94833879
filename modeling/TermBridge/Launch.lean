import TermBridge.CommandLine.Encode
import TermBridge.Session.Config
import TermBridge.Text.Utf16
import TermBridge.Text.Utf8

namespace TermBridge

namespace Launch

def childExecFlag : String := "--child-exec"

-- The path of the program that the session starts, and the user's command.
structure Command where
  selfPath : Bytes
  argv : List String

namespace Command

def childCommandLine (c : Command) : String :=
  CommandLine.encode c.argv

-- The path stands between quotes as it is.
def sessionCommandLine (c : Command) : String :=
  "\"" ++ Utf8.decodeLossy c.selfPath ++ "\" " ++ childExecFlag ++ " " ++ c.childCommandLine

end Command

inductive Error where
  | spawn (commandLine : String) (reason : SpawnError)
  deriving DecidableEq, Repr

def Error.message : Error → String
  | .spawn commandLine reason => "Could not start '" ++ commandLine ++ "': " ++ reason.message

-- Asks `spawn`, a session's way of starting a command line, for the child. It is asked once, and a
-- refusal is final.
def launch {σ χ : Type} (c : Command) (spawn : σ → WideString → Except SpawnError χ × σ)
    (session : σ) : Except Error χ × σ :=
  match spawn session (WideString.ofString c.sessionCommandLine) with
  | (.ok child, session) => (.ok child, session)
  | (.error reason, session) => (.error (.spawn c.childCommandLine reason), session)

end Launch

-- The program to become, where the arguments (the program's own name first) ask for that.
def childExecTarget? {α : Type} [DecidableEq α] (flag : α) : List α → Option (List α)
  | _ :: word :: target => if word = flag ∧ target ≠ [] then some target else none
  | _ => none

end TermBridge
