import TermBridge.Programs.Arguments
import TermBridge.Programs.Output
import TermBridge.Text.Caret
import TermBridge.Text.Numeral
import TermBridge.Text.ShellQuoted

namespace TermBridge.Programs.Cat

def switches : List Switch := [
  ⟨'b', "number-nonblank", false⟩,
  ⟨'n', "number", false⟩,
  ⟨'s', "squeeze-blank", false⟩,
  ⟨'v', "show-nonprinting", false⟩,
  ⟨'E', "show-ends", false⟩,
  ⟨'T', "show-tabs", false⟩,
  ⟨'A', "show-all", false⟩,
  ⟨'e', "", false⟩,
  ⟨'t', "", false⟩,
  ⟨'u', "", false⟩]

structure Style where
  numbered : Bool := false
  blankNumbered : Bool := true
  squeezed : Bool := false
  controls : Bool := false
  ends : Bool := false
  tabs : Bool := false
  deriving DecidableEq, Repr

def Style.ofArguments (a : Arguments) : Style where
  numbered := a.has 'n' || a.has 'b'
  blankNumbered := !a.has 'b'
  squeezed := a.has 's'
  controls := "veAt".toList.any a.has
  ends := "EeA".toList.any a.has
  tabs := "TtA".toList.any a.has

def Style.isPlain (s : Style) : Bool :=
  s = {}

structure Progress where
  -- How many newlines came last, where a line that has begun counts as none.
  newlines : Nat := 1
  -- A carriage return is kept back, as it shows differently at the end of a line.
  heldReturn : Bool := false
  lines : Nat := 0
  deriving DecidableEq, Repr

def numberText (n : Nat) : List Char :=
  Numeral.padLeft 6 ' ' (Numeral.decimal n) ++ ['\t']

-- The next line's number, where it is to be shown.
def number (shown : Bool) (p : Progress) : List Char × Progress :=
  if shown then (numberText (p.lines + 1), { p with lines := p.lines + 1 }) else ([], p)

def charText (s : Style) (c : Char) : List Char :=
  if c = '\t' then if s.tabs then ['^', 'I'] else [c]
  else if s.controls then Caret.visible c
  else [c]

def newline (s : Style) (p : Progress) : List Char × Progress :=
  let held := if p.heldReturn then ['^', 'M'] else []
  let ending := held ++ (if s.ends then ['$', '\n'] else ['\n'])
  let p := { p with heldReturn := false }
  if p.newlines = 0 then (ending, { p with newlines := 1 })
  else if 2 ≤ p.newlines && s.squeezed then ([], p)
  else
    let (front, p) := number (s.numbered && s.blankNumbered) p
    (front ++ ending, { p with newlines := 2 })

def char (s : Style) (p : Progress) (c : Char) : List Char × Progress :=
  if c = '\n' then newline s p
  else
    let held := if p.heldReturn then ['\r'] else []
    let (front, p) := number (s.numbered && 0 < p.newlines) { p with heldReturn := false }
    let p := { p with newlines := 0 }
    if c = '\r' && s.ends && !s.controls then (held ++ front, { p with heldReturn := true })
    else (held ++ front ++ charText s c, p)

def show_ (s : Style) (p : Progress) (text : List Char) : List Char × Progress :=
  let (shown, p) := text.foldl (fun (acc : List Char × Progress) c =>
    let (more, p) := char s acc.2 c
    (more.reverse ++ acc.1, p)) ([], p)
  (shown.reverse, p)

def readSize : Nat := 131072

-- More parts than any input has.
def partLimit : Nat := 1000000000

inductive Ending where
  | complete
  | readFailure (e : Errno)
  | writeFailure (e : Errno)

-- Copies what can be read to the output.
def copy (s : Style) (descriptor : Nat) : Nat → Progress → Sys (Ending × Progress)
  | 0, p => return (.complete, p)
  | fuel + 1, p => do
    match ← Sys.perform (.read descriptor readSize) with
    | .error e => return (.readFailure e, p)
    | .ok [] => return (.complete, p)
    | .ok text => do
      let (shown, p) := if s.isPlain then (text, p) else show_ s p text
      if shown.isEmpty then copy s descriptor fuel p
      else
        match ← Sys.perform (.write standardOutput shown) with
        | .error e => return (.writeFailure e, p)
        | .ok () => copy s descriptor fuel p

structure Session where
  name : String
  style : Style
  output : Unix.FileStatus
  progress : Progress := {}
  -- The standard input is one of the files.
  readsInput : Bool := false
  code : Nat := 0

def Session.complain (s : Session) (text : String) : Sys (Option Session) := do
  Programs.complain (s.name ++ ": " ++ text ++ "\n")
  return some { s with code := 1 }

-- A file cannot be printed into itself.
def isOutput (s : Session) (status : Unix.FileStatus) : Bool :=
  status.kind = .regular && status.id = s.output.id && 0 < status.size

def printOpened (s : Session) (file : String) (descriptor : Nat) : Sys (Option Session) := do
  match ← Sys.perform (.descriptorStatus descriptor) with
  | .error e => s.complain (ShellQuoted.name file ++ ": " ++ e.message)
  | .ok status =>
    if isOutput s status then s.complain (ShellQuoted.name file ++ ": input file is output file")
    else do
      let (ending, progress) ← copy s.style descriptor partLimit s.progress
      let s := { s with progress := progress }
      match ending with
      | .complete => return some s
      | .readFailure e => s.complain (ShellQuoted.name file ++ ": " ++ e.message)
      | .writeFailure e => do
        Programs.complain (s.name ++ ": write error: " ++ e.message ++ "\n")
        return none

-- Prints one file. Nothing is left of the session if the output cannot be written.
def printFile (s : Session) (file : String) : Sys (Option Session) := do
  if file = "-" then printOpened { s with readsInput := true } file standardInput
  else
    match ← Sys.perform (.openFile file { reads := true }) with
    | .error e => s.complain (ShellQuoted.name file ++ ": " ++ e.message)
    | .ok descriptor => do
      let result ← printOpened s file descriptor
      let _ ← Sys.perform (.close descriptor)
      return result

def printFiles (s : Session) : List String → Sys Nat
  | [] => do
    if s.progress.heldReturn then
      let _ ← Sys.print standardOutput "\r"
    if s.readsInput then
      match ← Sys.perform (.close standardInput) with
      | .ok () => return s.code
      | .error e => fail 1 (s.name ++ ": closing standard input: " ++ e.message ++ "\n")
    else return s.code
  | file :: rest => do
    match ← printFile s file with
    | none => return 1
    | some s => printFiles s rest

def run : Program := fun argv _ => do
  let name := argv.headD "cat"
  match Arguments.read? switches true (argv.drop 1) with
  | .error err => fail 1 (err.complaint name)
  | .ok a =>
    match ← Sys.perform (.descriptorStatus standardOutput) with
    | .error e => fail 1 (name ++ ": standard output: " ++ e.message ++ "\n")
    | .ok output =>
      let s : Session := { name := name, style := .ofArguments a, output := output }
      printFiles s (if a.operands.isEmpty then ["-"] else a.operands)

end TermBridge.Programs.Cat
