import TermBridge.Shell.SimpleCommand

namespace TermBridge.Shell

namespace Evaluation

open SimpleCommand (enterLine jobText)

-- Children.

-- A command can be looked up in front of its child, which is remembered.
def lookAhead : Command → Sh Unit
  | .simple _ _ (w :: _) _ => do
    match Word.plain? w with
    | some name => do
      if Word.isName name && (← Lookup.early name true).isNone then
        let _ ← Lookup.program? name none
    | none => return ()
  | _ => return ()

-- Starts the commands of a pipeline. `input` is the reading end in front of the next one.
def pipeFrom (run : Run) (place : Sh.Place) (p : Standing) :
    Option Nat → Job → List Command → Sh Job
  | _, j, [] => return j
  | input, j, c :: rest => do
    lookAhead c
    let pipe ← if rest.isEmpty then pure none
      else
        match ← Sh.call .makePipe with
        | .ok ends => pure (some ends)
        | .error _ => Sh.fail "Pipe call failed"
    let j ← Sh.start place j (← jobText c) (run.toEnd do
      match pipe with
      | some (reader, _) =>
        let _ ← Sh.call (.close reader)
      | none => pure ()
      match input with
      | some descriptor => Run.takePlace descriptor Programs.standardInput
      | none => pure ()
      match pipe with
      | some (_, writer) => Run.takePlace writer Programs.standardOutput
      | none => pure ()
      let _ ← run (some c) { p with last := true })
    match input with
    | some descriptor =>
      let _ ← Sh.call (.close descriptor)
    | none => pure ()
    match pipe with
    | some (_, writer) =>
      let _ ← Sh.call (.close writer)
    | none => pure ()
    pipeFrom run place p (pipe.map (·.1)) j rest

def pipeline (run : Run) (background : Bool) (commands : List Command) (p : Standing) : Sh Nat := do
  let place := if background then Sh.Place.background else .foreground
  let j ← pipeFrom run place p none (← Sh.addJob) commands
  if background then return 0 else Sh.await j.number

-- Runs a command in a shell of its own, unless this shell has nothing else to do.
def subshell (run : Run) (c : Command) (background : Bool) (line : Nat) (body : Option Command)
    (redirections : List Redirection) (p : Standing) : Sh Nat := do
  enterLine line
  let steps ← redirections.mapM (Redirecting.prepare run.substitute)
  let inside (p : Standing) : Sh Nat := do
    Redirecting.redirect run.substitute steps
    run body { p with last := true }
  if !background && p.last && !(← Sh.hasTraps) then inside p
  else
    let place := if background then Sh.Place.background else .foreground
    let j ← Sh.start place (← Sh.addJob) (← jobText c) (run.toEnd do
      let _ ← inside { p with tested := p.tested && !background })
    if background then return 0 else Sh.await j.number

def redirected (run : Run) (line : Nat) (body : Command) (redirections : List Redirection)
    (p : Standing) : Sh Nat := do
  enterLine line
  let steps ← redirections.mapM (Redirecting.prepare run.substitute)
  let opened ← Redirecting.redirectForNow run.substitute steps
  let status ← if opened then run (some body) { tested := p.tested } else pure Sh.errorStatus
  Redirecting.putBack false
  return status

-- Loops.

-- What is left to skip after a turn of a loop.
def skipTurn : Sh Skip := do
  let s ← get
  match s.skip with
  | .break_ | .continue_ =>
    if s.skipCount ≤ 1 then
      set { s with skip := .nothing, skipCount := 0 }
      return s.skip
    else
      set { s with skipCount := s.skipCount - 1 }
      return .break_
  | skip => return skip

-- Whether a loop has another turn after that.
def Skip.goesOn : Skip → Bool
  | .nothing | .continue_ => true
  | _ => false

def repeatFrom (run : Run) (expected : Bool) (test body : Option Command) (p : Standing) :
    Nat → Nat → Sh Nat
  | 0, status => return status
  | fuel + 1, status => do
    let tested ← run test { tested := true }
    match ← skipTurn with
    | .nothing =>
      if (tested = 0) ≠ expected then return status
      else
        let status ← run body p
        if Skip.goesOn (← skipTurn) then repeatFrom run expected test body p fuel status
        else return status
    | .continue_ => repeatFrom run expected test body p fuel status
    | .function true => return tested
    | _ => return status

def eachFrom (run : Run) (name : String) (body : Option Command) (p : Standing) :
    List String → Nat → Sh Nat
  | [], status => return status
  | value :: rest, _ => do
    Sh.setTo name value
    let status ← run body p
    if Skip.goesOn (← skipTurn) then eachFrom run name body p rest status else return status

-- Runs a loop, which knows that it is one.
def inLoop (loop : Sh Nat) : Sh Nat := do
  modify fun s => { s with loopDepth := s.loopDepth + 1 }
  let status ← loop
  modify fun s => { s with loopDepth := s.loopDepth - 1 }
  return status

-- Choices.

def matchesAny (run : Run) (text : String) : List Word → Sh Bool
  | [] => return false
  | w :: rest => do
    if Pattern.isMatch (← Expansion.pattern run.substitute w) text.toList then return true
    else matchesAny run text rest

def chosen (run : Run) (text : String) (p : Standing) :
    List (List Word × Option Command) → Sh Nat
  | [] => return 0
  | (patterns, body) :: rest => do
    if ← matchesAny run text patterns then
      if body.isSome then run body p else return 0
    else chosen run text p rest

def define (name : String) (f : FunctionBody) : Sh Unit := do
  Lookup.forget name
  modify fun s => { s with functions := (name, f) :: s.functions.filter (·.1 != name) }

-- All commands.

-- A failure of such a command can end the shell.
def isChecked : Command → Bool
  | .simple .. | .pipeline .. | .subshell .. | .background .. => true
  | _ => false

def isSkipping : Sh Bool := do
  return (← get).skip ≠ .nothing

def perform (run : Run) (c : Command) (p : Standing) : Sh Nat := do
  let inner : Standing := { tested := p.tested }
  match c with
  | .simple line assignments words redirections =>
    SimpleCommand.execute run c line assignments words redirections p
  | .pipeline background commands => pipeline run background commands p
  | .redirected line body redirections => redirected run line body redirections p
  | .background line body redirections => subshell run c true line (some body) redirections p
  | .subshell line body redirections => subshell run c false line body redirections p
  | .negated body =>
    return if (← run (some body) { tested := true }) = 0 then 1 else 0
  | .both first second => do
    let status ← run (some first) { tested := true }
    if status ≠ 0 || (← isSkipping) then return status else run (some second) p
  | .either first second => do
    let status ← run (some first) { tested := true }
    if status = 0 || (← isSkipping) then return status else run (some second) p
  | .sequence first second => do
    let status ← run (some first) inner
    if ← isSkipping then return status else run (some second) p
  | .branch test yes no => do
    let status ← run test { tested := true }
    if ← isSkipping then return status
    else if status = 0 then run yes p
    else if no.isSome then run no p
    else return 0
  | .repeated expected test body => inLoop (repeatFrom run expected test body inner Sh.limit 0)
  | .forEach line name words body => do
    enterLine line
    let values ← words.mapM (SimpleCommand.expandWord run.substitute)
    inLoop (eachFrom run name body inner values.flatten 0)
  | .choose line word cases => do
    enterLine line
    chosen run (← Expansion.text run.substitute { tilde := true } word) p cases
  | .function line name body => do
    define name ⟨line, body⟩
    return 0

-- One command with what comes before and after it. Without any, or if commands are only read, there is
-- only that.
def step (run : Run) (c : Option Command) (p : Standing) : Sh Nat := do
  let failed ← do
    match if ← Sh.has 'n' then none else c with
    | none => pure false
    | some c => do
      run.traps
      let checks := isChecked c && !p.tested && (← Sh.has 'e')
      let status ← perform run c p
      modify fun s => { s with status := status }
      pure (checks && status ≠ 0)
  run.traps
  if failed || p.last then Sh.raise .ended
  return (← get).status

-- The fuel bounds how deep commands are within each other.
def evaluateFrom : Nat → Run
  | 0, _, _ => Sh.raise .error
  | fuel + 1, c, p => step (fun c p => evaluateFrom fuel c p) c p

end Evaluation

def evaluate : Run :=
  Evaluation.evaluateFrom Sh.limit

end TermBridge.Shell
