import TermBridge.Shell.Builtins.Jobs
import TermBridge.Shell.Quote

namespace TermBridge.Shell.Builtins

-- Sending.

def usage {α : Type} : Sh α :=
  Sh.fail ("Usage: kill [-s sigspec | -signum | -sigspec] [pid | job]... or\n" ++
    "kill -l [exitstatus]")

-- A signal that can be sent, which the end of the shell is not, although it has a name.
def sendable? (text : String) : Option Nat :=
  (Signals.ofText? text).filter fun n => n ≠ Signals.atExit || Signals.isNumber text

def showSignals (args : List String) : Sh Nat := do
  match args with
  | [] =>
    let names := (List.range Signals.last).map fun n => Signals.name (n + 1) ++ "\n"
    Sh.print ("0\n" ++ String.join names)
  | text :: _ => do
    let status ← Sh.number text
    let n := if 128 < status then status - 128 else status
    if n = 0 || Signals.last < n then
      Sh.fail ("invalid signal number or exit status: " ++ text)
    Sh.print (Signals.name n ++ "\n")
  return 0

-- Whom a text means, which can be a job, a group or a process. The own group has number zero.
def recipient (text : String) : Sh Unix.Recipient := do
  if text.startsWith "%" then return .group (← job (some text) false).group
  else
    let isGroup := text.startsWith "-"
    let n ← Sh.number (if isGroup then String.ofList (text.toList.drop 1) else text)
    if n = 0 then return .group (← Sh.call .identity).group
    else return if isGroup then .group n else .process n

def sendAll (signal : Nat) : List String → Nat → Sh Nat
  | [], status => return status
  | text :: rest, status => do
    match ← Sh.call (.signal (← recipient text) signal) with
    | .ok () => sendAll signal rest status
    | .error e => do
      Sh.warn (e.message ++ "\n")
      sendAll signal rest 1

-- The signal that options name, if there is one.
def optionSignal : List (Char × String) → Option Nat → Sh (Option Nat)
  | [], found => return found
  | ('s', text) :: rest, _ => do
    match sendable? text with
    | some n => optionSignal rest (some n)
    | none => Sh.fail ("invalid signal number or name: " ++ text)
  | _ :: rest, found => optionSignal rest found

def kill (args : List String) : Sh Nat := do
  match args with
  | [] => usage
  | first :: rest => do
    let direct := if first.startsWith "-" then sendable? (String.ofList (first.toList.drop 1)) else none
    let (found, args) ← if direct.isSome then pure ([], rest)
      else if first.startsWith "-" then Sh.options [('l', false), ('s', true)] args
      else pure ([], args)
    let signal ← optionSignal found direct
    if found.any (·.1 == 'l') then
      if signal.isSome && !args.isEmpty then usage
      showSignals args
    else if args.isEmpty then usage
    else sendAll (signal.getD Signals.terminate) args 0

-- Traps.

def showTraps : Sh Nat := do
  let traps := (← get).traps.mergeSort fun a b => a.1 ≤ b.1
  Sh.print (String.join (traps.map fun t =>
    "trap -- " ++ Quote.encode t.2 ++ " " ++ Signals.name t.1 ++ "\n"))
  return 0

-- Sets the same trap for some signals, or takes their traps away.
def setTraps (action : Option String) : List String → Sh Nat
  | [] => return 0
  | text :: rest => do
    match Signals.ofText? text with
    | none => do
      Sh.complain ("trap: " ++ text ++ ": bad trap\n")
      return 1
    | some n => do
      modify fun s =>
        let others := s.traps.filter (·.1 != n)
        { s with traps := match action with
          | some text => (n, text) :: others
          | none => others }
      if n ≠ Signals.atExit then Sh.arrange n
      setTraps action rest

def isSignalNumber (text : String) : Bool :=
  Signals.isNumber text && (Signals.ofText? text).isSome

def trap (args : List String) : Sh Nat := do
  match ← Sh.noOptions args with
  | [] => showTraps
  | [text] => setTraps none [text]
  | action :: rest =>
    if isSignalNumber action then setTraps none (action :: rest)
    else setTraps (if action = "-" then none else some action) rest

end TermBridge.Shell.Builtins
