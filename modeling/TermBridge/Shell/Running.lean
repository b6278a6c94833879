import TermBridge.Shell.Builtins.Flow
import TermBridge.Shell.Builtins.Jobs
import TermBridge.Shell.Control
import TermBridge.Shell.Script

namespace TermBridge.Shell

-- In which place a command stands.
structure Standing where
  -- The shell has nothing to do after it.
  last : Bool := false
  -- Somebody looks at its status, so it may fail.
  tested : Bool := false
  deriving DecidableEq, Repr

-- How commands are run. The status is the result.
abbrev Run := Option Command → Standing → Sh Nat

namespace Run

-- Scripts.

-- Runs the commands of a text. The last one inherits the place of all.
def textFrom (run : Run) (p : Standing) : Nat → Source → Nat → Sh Nat
  | 0, _, status => return status
  | fuel + 1, source, status => do
    match ← source.read (fun _ => return []) false with
    | (.ended, _) => return status
    | (.commands c, source) => do
      let found ← run c { p with last := p.last && source.atEnd }
      let status := if c.isSome then found else status
      if (← get).skip ≠ .nothing then return status else textFrom run p fuel source status

def text (run : Run) (script : String) (p : Standing) : Sh Nat :=
  run.textFrom p Sh.limit (Source.ofText script) 0

def traps (run : Run) : Sh Unit :=
  Sh.runTraps fun script => run.text script {}

-- The end.

-- Forgets what was going on when the shell ends or goes back to its user.
def settle (e : Exit) : Sh Unit := do
  modify fun s =>
    let keeps := e = .exit || s.skip = .function false
    { s with
      status := if keeps then s.keptStatus.getD s.status else s.status
      keptStatus := none
      skip := .nothing
      loopDepth := 0 }
  Redirecting.unwind 0 Sh.limit

-- Does what is to be done at the end of a shell.
def finish (run : Run) : Sh Unit := do
  modify fun s => { s with keptStatus := some s.status }
  match ← Sh.trap? Signals.atExit with
  | none => settle .ended
  | some script => do
    modify fun s => { s with skip := .nothing, traps := s.traps.filter (·.1 != Signals.atExit) }
    match ← Sh.attempt (run.text script {}) with
    | .ok _ => settle .exit
    | .error e => settle e
  let _ ← Sh.attempt (Sh.controlJobs false)
  Sh.flush

-- Runs all of a child, which is over after that.
def toEnd (run : Run) (body : Sh Unit) : Sh Unit := do
  match ← Sh.attempt body with
  | .ok () => settle .ended
  | .error e => settle e
  run.finish

-- Output.

-- Makes a descriptor the standard one, unless it is already.
def takePlace (descriptor standard : Nat) : Sh Unit := do
  if descriptor ≠ standard then
    let _ ← Sh.call (.place descriptor standard)
    let _ ← Sh.call (.close descriptor)

def substitute (run : Run) : Expansion.Substitute
  | none => return []
  | some c => do
    match ← Sh.call .makePipe with
    | .error _ => Sh.fail "Pipe call failed"
    | .ok (reader, writer) => do
      let j ← Sh.startApart (← Sh.addJob) (run.toEnd do
        let _ ← Sh.call (.close reader)
        takePlace writer Programs.standardOutput
        let _ ← run (some c) { last := true })
      let _ ← Sh.call (.close writer)
      let output ← Expansion.readAll reader Sh.limit []
      let _ ← Sh.call (.close reader)
      let status ← Sh.await j.number
      modify fun s => { s with replacedStatus := status }
      return output

-- Command by command.

-- From where a shell goes on that was stopped at a line of its source.
abbrev Recovery := Exit → Nat → Sh Source

-- So many times in a row a user may end the input by mistake.
def mistakeLimit : Nat := 50

-- Whether the shell asks once more after its input has ended.
def asksAgain (top : Bool) (mistakes : Nat) : Sh Bool := do
  if !top || mistakeLimit ≤ mistakes then return false
  else if ← Builtins.tellOfStopped then return true
  else if ← Sh.has 'I' then
    Sh.complain "\nUse \"exit\" to leave shell.\n"
    return true
  else
    if ← Sh.isInteractive then Sh.complain "\n"
    return false

-- Reads commands and runs them one after the other. `top` is for the shell's own input, whose end can be
-- a mistake.
def loopFrom (run : Run) (top : Bool) (recover : Recovery) : Nat → Nat → Source → Nat → Sh Nat
  | 0, _, _, status => return status
  | fuel + 1, mistakes, source, status => do
    if (← get).control.isSome then Builtins.showJobs Sh.complain .commands true
    let prompts := top && (← Sh.isInteractive)
    match ← Sh.attempt (source.read run.substitute prompts) with
    | .error e => loopFrom run top recover fuel 0 (← recover e (← get).line) status
    | .ok (.ended, source) =>
      if ← asksAgain top mistakes then loopFrom run top recover fuel (mistakes + 1) source status
      else return status
    | .ok (.commands c, source) => do
      modify fun s => { s with warned := if s.warned = 2 then 1 else 0 }
      match ← Sh.attempt (run c {}) with
      | .error e => loopFrom run top recover fuel 0 (← recover e source.reader.line) status
      | .ok found =>
        let status := if c.isSome then found else status
        match (← get).skip with
        | .nothing => loopFrom run top recover fuel 0 source status
        | .function _ => do
          modify fun s => { s with skip := .nothing }
          return status
        | _ => return status

def loop (run : Run) (top : Bool) (recover : Recovery) (source : Source) : Sh Nat :=
  run.loopFrom top recover Sh.limit 0 source 0

-- Opens a script with a descriptor of the shell's own.
def openScript (path : String) : Sh Nat := do
  let descriptor ← Redirecting.openWith path { reads := true } "open" .toRead
  match ← Sh.makeOwn descriptor with
  | some own => do
    let _ ← Sh.call (.close descriptor)
    return own
  | none => return descriptor

-- Runs the commands that are read from a descriptor, which is closed after that.
def script (run : Run) (descriptor : Nat) : Sh Nat := do
  let result ← Sh.attempt (run.loop false (fun e _ => Sh.raise e) (Source.ofDescriptor descriptor))
  let _ ← Sh.call (.close descriptor)
  match result with
  | .ok status => return status
  | .error e => Sh.raise e

end Run

end TermBridge.Shell
