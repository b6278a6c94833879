import TermBridge.Shell.Children

namespace TermBridge.Shell.Builtins

-- Tells the user that there are stopped jobs, unless that has just been done. Whether there was
-- something to tell is the result.
def tellOfStopped : Sh Bool := do
  let s ← get
  if !s.options.contains 'i' || 0 < s.warned || !(s.jobs.head?.any (·.phase = .stopped)) then
    return false
  else
    Sh.complain "You have stopped jobs.\n"
    modify fun s => { s with warned := 2 }
    return true

-- Ends the shell, unless the user is to think about it once more.
def exit (args : List String) : Sh Nat := do
  if ← tellOfStopped then return 0
  else
    match args with
    | text :: _ => do
      let status ← Sh.number text
      modify fun s => { s with keptStatus := some status }
    | [] => pure ()
    Sh.raise .exit

def return_ (args : List String) : Sh Nat := do
  let status ← match args with
    | text :: _ => Sh.number text
    | [] => pure (← get).status
  modify fun s => { s with skip := .function (!args.isEmpty) }
  return status

-- The commands that leave loops, or go on with their next turns.
def leaveLoops (skip : Skip) (args : List String) : Sh Nat := do
  let n ← match args with
    | text :: _ => do
      let n ← Sh.number text
      if n = 0 then Sh.illegalNumber text else pure n
    | [] => pure 1
  modify fun s =>
    let n := min n s.loopDepth
    if n = 0 then s else { s with skip := skip, skipCount := n }
  return 0

end TermBridge.Shell.Builtins
