namespace TermBridge.Signals

inductive Effect where
  | terminate
  | nothing
  | stop
  | resume
  deriving DecidableEq, Repr

structure Entry where
  number : Nat
  name : String
  description : String
  effect : Effect := .terminate

-- The number 16 has no name that programs know.
def table : List Entry := [
  ⟨1, "HUP", "Hangup", .terminate⟩,
  ⟨2, "INT", "Interrupt", .terminate⟩,
  ⟨3, "QUIT", "Quit", .terminate⟩,
  ⟨4, "ILL", "Illegal instruction", .terminate⟩,
  ⟨5, "TRAP", "Trace/breakpoint trap", .terminate⟩,
  ⟨6, "ABRT", "Aborted", .terminate⟩,
  ⟨7, "BUS", "Bus error", .terminate⟩,
  ⟨8, "FPE", "Floating point exception", .terminate⟩,
  ⟨9, "KILL", "Killed", .terminate⟩,
  ⟨10, "USR1", "User defined signal 1", .terminate⟩,
  ⟨11, "SEGV", "Segmentation fault", .terminate⟩,
  ⟨12, "USR2", "User defined signal 2", .terminate⟩,
  ⟨13, "PIPE", "Broken pipe", .terminate⟩,
  ⟨14, "ALRM", "Alarm clock", .terminate⟩,
  ⟨15, "TERM", "Terminated", .terminate⟩,
  ⟨16, "16", "Stack fault", .terminate⟩,
  ⟨17, "CHLD", "Child exited", .nothing⟩,
  ⟨18, "CONT", "Continued", .resume⟩,
  ⟨19, "STOP", "Stopped (signal)", .stop⟩,
  ⟨20, "TSTP", "Stopped", .stop⟩,
  ⟨21, "TTIN", "Stopped (tty input)", .stop⟩,
  ⟨22, "TTOU", "Stopped (tty output)", .stop⟩,
  ⟨23, "URG", "Urgent I/O condition", .nothing⟩,
  ⟨24, "XCPU", "CPU time limit exceeded", .terminate⟩,
  ⟨25, "XFSZ", "File size limit exceeded", .terminate⟩,
  ⟨26, "VTALRM", "Virtual timer expired", .terminate⟩,
  ⟨27, "PROF", "Profiling timer expired", .terminate⟩,
  ⟨28, "WINCH", "Window changed", .nothing⟩,
  ⟨29, "IO", "I/O possible", .terminate⟩,
  ⟨30, "PWR", "Power failure", .terminate⟩,
  ⟨31, "SYS", "Bad system call", .terminate⟩]

def hangup : Nat := 1

def interrupt : Nat := 2

def quit : Nat := 3

def kill : Nat := 9

def brokenPipe : Nat := 13

def terminate : Nat := 15

def childEnded : Nat := 17

def resume : Nat := 18

def stop : Nat := 19

def keyboardStop : Nat := 20

def backgroundRead : Nat := 21

def backgroundWrite : Nat := 22

def windowChanged : Nat := 28

-- No signal: the end of a shell, in a list of traps.
def atExit : Nat := 0

-- The signals from `firstRealTime` to `last` have no meaning of their own.
def firstRealTime : Nat := 34

def last : Nat := 64

-- The real-time signals are named by their distance from the nearer end.
def realTimeName (n : Nat) : String :=
  if n = firstRealTime then "RTMIN"
  else if n = last then "RTMAX"
  else if n < 50 then "RTMIN+" ++ (n - firstRealTime).repr
  else "RTMAX-" ++ (last - n).repr

-- The name of a signal, which is its number for those that have none.
def name (n : Nat) : String :=
  if n = atExit then "EXIT"
  else
    match table.find? (·.number == n) with
    | some row => row.name
    | none => if n < firstRealTime then n.repr else realTimeName n

def names : List (String × Nat) :=
  (List.range (last + 1)).map fun n => (name n, n)

-- Names are known in any case.
def ofName? (text : String) : Option Nat :=
  names.lookup (text.map Char.toUpper)

def isNumber (text : String) : Bool :=
  !text.isEmpty && text.all Char.isDigit

def ofText? (text : String) : Option Nat :=
  if isNumber text then text.toNat?.filter (· ≤ last) else ofName? text

def description (n : Nat) : String :=
  match table.find? (·.number == n) with
  | some row => row.description
  | none =>
    if n < firstRealTime then "Unknown signal " ++ n.repr
    else "Real-time signal " ++ (n - firstRealTime).repr

def effect (n : Nat) : Effect :=
  match table.find? (·.number == n) with
  | some row => row.effect
  | none => .terminate

-- Signals that nothing can be arranged for.
def isFinal (n : Nat) : Bool :=
  n = kill || n = stop

end TermBridge.Signals
