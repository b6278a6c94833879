import TermBridge.Programs.Arguments
import TermBridge.Programs.Output
import TermBridge.Text.Real
import TermBridge.Text.ShellQuoted

namespace TermBridge.Programs.Sleep

def unit? (text : List Char) : Option Nat :=
  match text with
  | [] | ['s'] => some 1
  | ['m'] => some 60
  | ['h'] => some 3600
  | ['d'] => some 86400
  | _ => none

-- Longer times are the same as waiting for ever.
def longest : Nat := 1000000000000000000000000

-- A time in nanoseconds. Parts of a nanosecond count as a whole one.
def time? (arg : String) : Option Nat :=
  match Real.read? arg.toList with
  | none => none
  | some (literal, rest) =>
    match unit? rest, literal.magnitude with
    | none, _ | _, .notANumber => none
    | some seconds, .finite n d =>
      if literal.negative && n ≠ 0 then none
      else some (min longest ((n * seconds * 1000000000 + d - 1) / d))
    | some _, .infinite => if literal.negative then none else some longest

def run : Program := fun argv _ => do
  let name := argv.headD "sleep"
  match Arguments.read? [] true (argv.drop 1) with
  | .error err => fail 1 (err.complaint name)
  | .ok a =>
    let wrong := a.operands.filter fun arg => (time? arg).isNone
    let complaint (text : String) := name ++ ": " ++ text ++ "\n"
    if a.operands.isEmpty then fail 1 (complaint "missing operand" ++ hint name)
    else if !wrong.isEmpty then
      fail 1 (String.join (wrong.map fun arg =>
        complaint ("invalid time interval " ++ ShellQuoted.encode arg)) ++ hint name)
    else do
      let total := (a.operands.filterMap time?).foldl (· + ·) 0
      Sys.perform (.sleep total)
      return 0

end TermBridge.Programs.Sleep
