import TermBridge.Programs.Output
import TermBridge.Shell.Job
import TermBridge.Shell.Variables

namespace TermBridge.Shell

-- Why a shell does not simply go on: something went wrong, it was interrupted, or it is to end.
inductive Exit where
  | error
  | interrupt
  -- The last command is over.
  | ended
  -- It was told to end.
  | exit
  deriving DecidableEq, Repr

-- What is left out on the way back to a loop, or to a function's or a script's end.
inductive Skip where
  | nothing
  | break_
  | continue_
  -- Whether a status was given.
  | function (withStatus : Bool)
  deriving DecidableEq, Repr

-- The positional parameters, and how far their options have been looked at.
structure Parameters where
  values : List String := []
  optionIndex : Nat := 1
  -- How far within an argument, if not at its beginning.
  optionOffset : Option Nat := none
  deriving DecidableEq, Repr

-- How the shell takes a signal, as far as it has arranged that. A signal that is shut out was ignored
-- from the beginning, and stays so.
inductive Reception where
  | standard
  | ignored
  | caught
  | shutOut
  deriving DecidableEq, Repr

-- What a variable, or the options, were before they became local.
inductive Former where
  | variable (v : Variable)
  | nothing (name : String)
  | options (letters : List Char)
  deriving DecidableEq, Repr

structure FunctionBody where
  line : Nat
  body : Command

structure State where
  name : String := "sh"
  -- The process number of the shell, also for its subshells, which are so many levels below it.
  process : Nat := 0
  level : Nat := 0
  bindings : Variables := ⟨[]⟩
  -- One list for each function or command that is running, newest first.
  formers : List (List Former) := []
  parameters : Parameters := {}
  -- The options that are on, by their letters.
  options : List Char := []
  functions : List (String × FunctionBody) := []
  aliases : List (String × String) := []
  -- In which directory of the search path commands have been found, and whether that has to be looked
  -- up once more.
  found : List (String × Nat × Bool) := []
  documents : Array Word := #[]
  status : Nat := 0
  -- The status of the last command that was replaced by its output.
  replacedStatus : Nat := 0
  -- The status to go back to after a trap, or to end with.
  keptStatus : Option Nat := none
  skip : Skip := .nothing
  skipCount : Nat := 0
  loopDepth : Nat := 0
  -- The line of the command at hand, and of the function it is in.
  line : Nat := 0
  functionLine : Option Nat := none
  -- The builtin command that complains.
  command : Option String := none
  -- What has been printed but not written, newest first.
  output : List Char := []
  -- A write has failed.
  outputFailed : Bool := false
  -- What redirections have put away: for each command a descriptor with the number it is kept under, if
  -- it was open at all. The newest command comes first.
  kept : List (List (Nat × Option Nat)) := []
  traps : List (Nat × String) := []
  receptions : List (Nat × Reception) := []
  -- Signals that have come and were not dealt with.
  pending : List Nat := []
  -- The newest one first.
  jobs : List Job := []
  background : Nat := 0
  -- Job control is on, on a terminal with this descriptor.
  control : Option Nat := none
  -- The group that had the terminal before.
  formerGroup : Nat := 0
  -- It runs a command line that it got as an argument.
  fromArgument : Bool := false
  -- Whether signals have been arranged as it suits an interactive shell, if they have been at all.
  interactiveSignals : Option Bool := none
  working : String := ""
  -- The user has been told that there are stopped jobs.
  warned : Nat := 0

-- A part of what a shell does.
abbrev Sh := ExceptT Exit (StateT State Sys)

namespace Sh

def call (c : Unix.Call) : Sh c.Reply :=
  (Sys.perform c : Sys c.Reply)

-- Whatever it comes to, this shell goes on.
def attempt {α : Type} (x : Sh α) : Sh (Except Exit α) :=
  fun s => do
    let (r, s) ← x s
    return (.ok r, s)

def raise {α : Type} (e : Exit) : Sh α :=
  throw e

-- Printing.

def print (text : String) : Sh Unit :=
  modify fun s => { s with output := text.toList.reverse ++ s.output }

def flush : Sh Unit := do
  let s ← get
  if s.output.isEmpty then return ()
  else
    set { s with output := [] }
    match ← call (.write Programs.standardOutput s.output.reverse) with
    | .ok () => return ()
    | .error _ => modify fun s => { s with outputFailed := true }

def complain (text : String) : Sh Unit := do
  let _ ← call (.write Programs.standardError text.toList)

-- The place that a complaint begins with.
def place : Sh String := do
  let s ← get
  return s.name ++ ": " ++ s.line.repr ++ ": " ++ s.command.elim "" (· ++ ": ")

def warn (text : String) : Sh Unit := do
  complain ((← place) ++ text ++ "\n")

def errorStatus : Nat := 2

-- Goes no further, with a status of its own.
def abandon {α : Type} (e : Exit) (status : Nat) (text : String) : Sh α := do
  modify fun s => { s with status := status }
  warn text
  flush
  raise e

def fail {α : Type} (text : String) : Sh α :=
  abandon .error errorStatus text

-- Options.

def has (option : Char) : Sh Bool := do
  return (← get).options.contains option

def isInteractive : Sh Bool :=
  has 'i'

def isTerminal (descriptor : Nat) : Sh Bool := do
  return (← call (.terminal descriptor .look)).toOption.isSome

-- What is said of a file that cannot be used.
inductive Purpose where
  | toRead
  | toWrite
  | toRun
  deriving DecidableEq, Repr

def reason (e : Errno) (p : Purpose) : String :=
  if e ≠ Errno.noEntry && e ≠ Errno.notDirectory then e.message
  else
    match p with
    | .toRead => "No such file"
    | .toWrite => "Directory nonexistent"
    | .toRun => "not found"

-- Numbers that builtin commands get.

def isSpace (c : Char) : Bool :=
  c == ' ' || (9 ≤ c.toNat && c.toNat ≤ 13)

-- A number with or without a sign, which blanks may surround.
def integer? (text : String) : Option Int :=
  let body := text.toList.dropWhile isSpace
  let (negative, body) := match body with
    | '-' :: rest => (true, rest)
    | '+' :: rest => (false, rest)
    | rest => (false, rest)
  let digits := body.takeWhile Char.isDigit
  let n := digits.foldl (fun n c => 10 * n + (c.toNat - '0'.toNat)) 0
  let most := if negative then 0x8000000000000000 else 0x7FFFFFFFFFFFFFFF
  if digits.isEmpty || most < n || !((body.drop digits.length).all isSpace) then none
  else some (if negative then -(n : Int) else n)

def illegalNumber {α : Type} (text : String) : Sh α :=
  fail ("Illegal number: " ++ text)

def integer (text : String) : Sh Int :=
  match integer? text with
  | some n => return n
  | none => illegalNumber text

def mostNumber : Nat := 2147483647

def number? (text : String) : Option Nat :=
  match integer? text with
  | some n => if 0 ≤ n && n ≤ mostNumber then some n.toNat else none
  | none => none

def number (text : String) : Sh Nat :=
  match number? text with
  | some n => return n
  | none => illegalNumber text

-- Options of builtin commands: letters, some of which have a value. What follows them is the second
-- result.
def optionsFrom (letters : List (Char × Bool)) : List (Char × String) → List String →
    Sh (List (Char × String) × List String)
  | found, [] => return (found, [])
  | found, arg :: rest =>
    match arg.toList with
    | ['-', '-'] => return (found, rest)
    | '-' :: c :: more => do
      let (here, lacking) ← group (c :: more)
      let found := found ++ here
      match lacking, rest with
      | none, rest => optionsFrom letters found rest
      | some c, value :: rest => optionsFrom letters (found ++ [(c, value)]) rest
      | some c, [] => fail ("No arg for -" ++ String.ofList [c] ++ " option")
    | _ => return (found, arg :: rest)
where
  -- The options in one argument, and the last one if its value is to come.
  group : List Char → Sh (List (Char × String) × Option Char)
    | [] => return ([], none)
    | c :: rest =>
      match letters.lookup c with
      | none => fail ("Illegal option -" ++ String.ofList [c])
      | some false => do
        let (found, lacking) ← group rest
        return ((c, "") :: found, lacking)
      | some true =>
        if rest.isEmpty then return ([], some c) else return ([(c, String.ofList rest)], none)

def options (letters : List (Char × Bool)) (args : List String) :
    Sh (List (Char × String) × List String) :=
  optionsFrom letters [] args

def noOptions (args : List String) : Sh (List String) := do
  return (← options [] args).2

-- More steps than anything takes.
def limit : Nat := 1000000000

end Sh

end TermBridge.Shell
