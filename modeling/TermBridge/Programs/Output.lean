import TermBridge.Unix.Call

namespace TermBridge.Programs

-- A program gets its arguments, its own name first, and the entries of its environment. Its result is
-- its exit code.
abbrev Program := List String → List String → Sys Nat

def standardInput : Nat := 0

def standardOutput : Nat := 1

def standardError : Nat := 2

def complain (text : String) : Sys Unit := do
  let _ ← Sys.print standardError text

def fail (code : Nat) (text : String) : Sys Nat := do
  complain text
  return code

-- Output, and complaints in between.
inductive Print where
  | out (text : String)
  | err (text : String)
  deriving DecidableEq, Repr

def Print.isError : Print → Bool
  | .out _ => false
  | .err _ => true

-- Output that is not interrupted by complaints is printed at once.
def joinPrints : List Print → List Print
  | [] => []
  | .err text :: rest => .err text :: joinPrints rest
  | .out text :: rest =>
    match joinPrints rest with
    | .out more :: rest => .out (text ++ more) :: rest
    | rest => .out text :: rest

-- Prints, where the first failure is the reason given for the end. No more output is tried after it.
def emit (name : String) (code : Nat) : List Print → Sys Nat
  | [] => return code
  | .err text :: rest => do
    complain text
    emit name code rest
  | .out text :: rest => do
    match ← Sys.print standardOutput text with
    | .ok () => emit name code rest
    | .error e => do
      for p in rest do
        if let .err text := p then complain text
      fail 1 (name ++ ": write error: " ++ e.message ++ "\n")

def printAll (name : String) (code : Nat) (prints : List Print) : Sys Nat :=
  emit name code (joinPrints prints)

def printText (name text : String) : Sys Nat :=
  printAll name 0 [.out text]

end TermBridge.Programs
