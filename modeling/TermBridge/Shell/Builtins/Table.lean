import TermBridge.Shell.Builtins.Commands
import TermBridge.Shell.Builtins.Directories
import TermBridge.Shell.Builtins.Flow
import TermBridge.Shell.Builtins.Signals
import TermBridge.Shell.Builtins.Test
import TermBridge.Shell.Builtins.Variables
import TermBridge.Shell.Control

namespace TermBridge.Shell.Builtins

def status (n : Nat) (_ : List String) : Sh Nat :=
  return n

-- Options that change can change how signals and jobs are dealt with.
def setAndApply (args : List String) : Sh Nat := do
  let status ← set_ args
  if !args.isEmpty then Sh.applyOptions
  return status

-- Becomes another program, if there are arguments.
def execute (args : List String) : Sh Nat := do
  match ← Sh.noOptions args with
  | [] => return 0
  | argv => do
    modify fun s => { s with options := s.options.filter fun c => c != 'i' && c != 'm' }
    Sh.applyOptions
    Lookup.become argv none 0

def table : List (String × (List String → Sh Nat)) := [
  (":", status 0),
  ("[", Condition.run "["),
  ("alias", alias_),
  ("bg", move false),
  ("break", leaveLoops .break_),
  ("cd", changeDirectory),
  ("chdir", changeDirectory),
  ("command", command),
  ("continue", leaveLoops .continue_),
  ("echo", echo),
  ("exec", execute),
  ("exit", exit),
  ("export", mark "export"),
  ("false", status 1),
  ("fg", move true),
  ("getopts", getopts),
  ("hash", hash),
  ("jobs", jobs),
  ("kill", kill),
  ("local", local_),
  ("printf", printf),
  ("pwd", printWorking),
  ("read", read),
  ("readonly", mark "readonly"),
  ("return", return_),
  ("set", setAndApply),
  ("shift", shift),
  ("test", Condition.run "test"),
  ("times", fun _ => times),
  ("trap", trap),
  ("true", status 0),
  ("type", type),
  ("ulimit", ulimit),
  ("umask", withhold),
  ("unalias", unalias),
  ("unset", unset),
  ("wait", wait)]

end TermBridge.Shell.Builtins
