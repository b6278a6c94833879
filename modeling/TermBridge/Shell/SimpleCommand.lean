import TermBridge.Shell.Builtins.Table
import TermBridge.Shell.CommandText
import TermBridge.Shell.Globbing
import TermBridge.Shell.Running

namespace TermBridge.Shell.SimpleCommand

open Expansion (Substitute)

-- Words, of which only the first ones have been expanded.
structure Words where
  fields : List String := []
  rest : List Word

def expandWord (substitute : Substitute) (w : Word) : Sh (List String) := do
  return (← (← Expansion.fields substitute w).mapM Globbing.expand).flatten

-- Expands words until there is another field.
def more (substitute : Substitute) (fields : List String) : List Word → Sh Words
  | [] => return ⟨fields, []⟩
  | w :: rest => do
    match ← expandWord substitute w with
    | [] => more substitute fields rest
    | found => return ⟨fields ++ found, rest⟩

namespace Words

-- Sees to it that there is a field at a place, if there can be one.
def reach (substitute : Substitute) (w : Words) (place : Nat) : Sh Words :=
  if place < w.fields.length then return w else more substitute w.fields w.rest

def assignmentText (substitute : Substitute) (w : Word) : Sh String :=
  Expansion.text substitute { assignment := true } w

-- All fields. Arguments that assign something can be expanded like assignments.
def all (substitute : Substitute) (w : Words) (assigns : Bool) : Sh (List String) := do
  let rest ← w.rest.mapM fun word => do
    if assigns && (Word.assigned? word).isSome then return [← assignmentText substitute word]
    else expandWord substitute word
  return w.fields ++ rest.flatten

end Words

-- What the first words of a command tell.
structure Head where
  words : Words
  -- The place of the command's name among the fields.
  start : Nat := 0
  builtin : Option Builtin := none
  -- Whether the first builtin command is a special one, if there is one.
  special : Option Bool := none
  -- Functions count.
  functions : Bool := true
  -- Where programs are looked for, if not in the usual search path.
  path : Option String := none

-- The place of the command that is given to `command`, and the search path for it. There is none if
-- `command` is only to tell something.
def given? (substitute : Substitute) : Nat → Nat → Option String → Words →
    Sh (Words × Option (Nat × Option String))
  | 0, _, _, w => return (w, none)
  | fuel + 1, place, path, w => do
    let w ← w.reach substitute place
    match (w.fields[place]?).map String.toList with
    | none => return (w, none)
    | some ['-', '-'] => do
      let w ← w.reach substitute (place + 1)
      return (w, if place + 1 < w.fields.length then some (place + 1, path) else none)
    | some ('-' :: c :: letters) =>
      if (c :: letters).all (· == 'p') then
        given? substitute fuel (place + 1) (some Lookup.standardPath) w
      else return (w, none)
    | some _ => return (w, some (place, path))

def wrapper : String := "command"

def findHead (substitute : Substitute) : Nat → Head → Sh Head
  | 0, h => return h
  | fuel + 1, h => do
    match ← Lookup.early (h.words.fields.getD h.start "") h.functions with
    | some (.builtin b) => do
      let h := { h with builtin := some b, special := h.special.or (some b.special) }
      if b.name ≠ wrapper then return h
      else
        let (words, found) ← given? substitute Sh.limit (h.start + 1) h.path h.words
        match found with
        | some (start, path) =>
          findHead substitute fuel
            { h with words := words, start := start, path := path, functions := false }
        | none => return { h with words := words }
    | _ => return { h with builtin := none }

-- Running.

def enterLine (line : Nat) : Sh Unit :=
  modify fun s => { s with line := line }

-- The text of a command with its job, which is only known with job control.
def jobText (c : Command) : Sh String := do
  return if (← get).control.isSome then c.text else ""

-- Shows what is run. Nothing is shown meanwhile.
def trace (substitute : Substitute) (descriptor : Nat) (texts : List String) : Sh Unit := do
  let options := (← get).options
  modify fun s => { s with options := options.filter (· != 'x') }
  let front ← Source.expandText substitute ((← Sh.lookup "PS4").getD "")
  modify fun s => { s with options := options }
  let _ ← Sh.call (.write descriptor (front ++ " ".intercalate texts ++ "\n").toList)

-- Where complaints went before the redirections of the command at hand.
def traceDescriptor (redirected : Bool) : Sh Nat := do
  if !redirected then return Programs.standardError
  else
    match ((← get).kept.headD []).lookup Programs.standardError with
    | some (some n) => return n
    | _ => return Programs.standardError

-- Runs a builtin command, where `name` is what it is called. Its output comes when it is over.
def callBuiltin (name : Option String) (body : Sh Nat) : Sh (Except Exit Unit) := do
  let former := (← get).command
  modify fun s => { s with command := name }
  let result ← Sh.attempt do
    let status ← body
    Sh.flush
    let failed := (← get).outputFailed
    if failed then Sh.warn (name.getD "" ++ ": I/O error")
    modify fun s => { s with status := if failed then status ||| 1 else status }
  modify fun s => { s with output := [], outputFailed := false, command := former }
  return result

def callFunction (run : Run) (f : FunctionBody) (args : List String) (p : Standing) : Sh Unit := do
  let before ← get
  set { before with
    functionLine := some f.line
    loopDepth := 0
    parameters := { values := args } }
  let result ← Sh.attempt (run (some f.body) { tested := p.tested })
  modify fun s => { s with
    functionLine := before.functionLine
    loopDepth := before.loopDepth
    parameters := before.parameters
    skip := match s.skip with
      | .function _ => .nothing
      | skip => skip }
  match result with
  | .ok _ => return ()
  | .error e => Sh.raise e

def callScript (run : Run) (args : List String) : Sh Nat := do
  match ← Sh.noOptions args with
  | [] => return 0
  | name :: _ => do
    let path ← Lookup.script name
    let descriptor ← Run.openScript path
    modify fun s => { s with command := some path }
    run.script descriptor

def evaluate (run : Run) (args : List String) (p : Standing) : Sh Nat :=
  if args.isEmpty then return 0
  else run.text (" ".intercalate args) { tested := p.tested }

def builtinBody (run : Run) (b : Builtin) (args : List String) (p : Standing) : Sh Nat :=
  match b.name with
  | "." => callScript run args
  | "eval" => evaluate run args p
  | name =>
    match Builtins.table.lookup name with
    | some body => body args
    | none => return 0

-- Something went wrong before the command could begin.
def bail (h : Head) (status : Nat) : Sh Nat := do
  modify fun s => { s with status := status }
  if h.special = some true then Sh.raise .error else return status

-- What is over in this shell may have let children end unnoticed.
def afterwards : Sh Nat := do
  Sh.learnAll none Sh.limit
  return (← get).status

-- Runs what the head tells, with its name and its arguments.
def perform (run : Run) (c : Command) (h : Head) (argv : List String) (p : Standing) : Sh Nat := do
  let name := argv.headD ""
  let target ← match h.builtin with
    | some b => pure (Target.builtin b)
    | none => Lookup.find name h.functions h.path
  match target with
  | .unknown => bail h Builtins.unknownStatus
  | .program index =>
    if p.last && !(← Sh.hasTraps) then Lookup.become argv h.path index
    else
      let body : Sh Unit := Lookup.become argv h.path index
      let j ← Sh.start .foreground (← Sh.addJob) (← jobText c) (run.toEnd body)
      Sh.await j.number
  | .function f => do
    callFunction run f (argv.drop 1) p
    afterwards
  | .builtin b =>
    match ← callBuiltin (some name) (builtinBody run b (argv.drop 1) p) with
    | .error e => if e = .error && h.special ≠ some true then afterwards else Sh.raise e
    | .ok () => afterwards

-- An assignment in front of a command, as text.
def assign (substitute : Substitute) (isLocal exported : Bool) (w : Word) : Sh String := do
  let text ← Words.assignmentText substitute w
  if isLocal then Sh.makeLocal text { exported := true }
  else
    let (name, value) := Sh.splitAssignment text
    Sh.assign name value { exported := exported }
  return text

-- Gives back local variables, up to so many commands.
def leaveDownTo (depth : Nat) : Nat → Sh Unit
  | 0 => return ()
  | fuel + 1 => do
    if depth < (← get).formers.length then
      if ← Sh.leaveLocals then Sh.applyOptions
      leaveDownTo depth fuel

def lastName : String := "_"

def execute (run : Run) (c : Command) (line : Nat) (assignments words : List Word)
    (redirections : List Redirection) (p : Standing) : Sh Nat := do
  enterLine line
  let substitute := run.substitute
  modify fun s => { s with replacedStatus := 0 }
  let first ← more substitute [] words
  let h ← if first.fields.isEmpty then pure { words := first }
    else findHead substitute Sh.limit { words := first }
  let fields ← h.words.all substitute (h.builtin.any (·.assigns))
  let argv := fields.drop h.start
  let becomes := h.builtin.any (·.name == "exec")
  let isLocal := !argv.isEmpty && h.special ≠ some true
  let before ← get
  if isLocal then Sh.enterLocals
  let last := if before.options.contains 'i' && before.functionLine.isNone then argv.getLast? else none
  let steps ← redirections.mapM (Redirecting.prepare substitute)
  let opened ← if steps.isEmpty then pure true else Redirecting.redirectForNow substitute steps
  let status ←
    if !opened then bail h Sh.errorStatus
    else
      let texts ← assignments.mapM (assign substitute isLocal (becomes && 1 < argv.length))
      if ← Sh.has 'x' then
        trace substitute (← traceDescriptor (!steps.isEmpty)) (texts ++ fields)
      if argv.isEmpty then
        match ← callBuiltin none (return (← get).replacedStatus) with
        | .error e => Sh.raise e
        | .ok () => afterwards
      else perform run c h argv p
  if !steps.isEmpty then Redirecting.putBack becomes
  Redirecting.unwind before.kept.length Sh.limit
  leaveDownTo before.formers.length Sh.limit
  match last with
  | some text => Sh.setTo lastName text
  | none => pure ()
  return status

end TermBridge.Shell.SimpleCommand
