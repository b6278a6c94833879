import TermBridge.Shell.Children

namespace TermBridge.Shell.Sh

def terminalPath : String := "/dev/tty"

-- The shell's own descriptors are numbered from here on.
def leastOwn : Nat := 10

-- Gives an open file a number of the shell's own.
def makeOwn (descriptor : Nat) : Sh (Option Nat) := do
  return (← call (.duplicate descriptor leastOwn true)).toOption

def streamOnTerminal? : List Nat → Sh (Option Nat)
  | [] => return none
  | n :: rest => do
    if ← isTerminal n then return some n else streamOnTerminal? rest

-- A descriptor of the terminal for the shell itself.
def ownTerminal? : Sh (Option Nat) := do
  match ← call (.openFile terminalPath { reads := true, writes := true }) with
  | .ok n => do
    let own ← makeOwn n
    let _ ← call (.close n)
    return own
  | .error _ => do
    match ← streamOnTerminal?
        [Programs.standardError, Programs.standardOutput, Programs.standardInput] with
    | some n => makeOwn n
    | none => return none

-- Waits until the shell is in the foreground. The group that the terminal belongs to is the result.
def awaitForeground (descriptor : Nat) : Nat → Sh (Option Nat)
  | 0 => return none
  | fuel + 1 => do
    match ← call (.terminal descriptor .look) with
    | .error _ => return none
    | .ok view => do
      let group := (← call .identity).group
      if view.foreground = group then return some group
      else
        let _ ← call (.signal (.group group) Signals.backgroundRead)
        awaitForeground descriptor fuel

def jobSignals : List Nat :=
  [Signals.keyboardStop, Signals.backgroundWrite, Signals.backgroundRead]

-- Makes a group the shell's own one, and the one in the foreground.
def moveTo (descriptor group : Nat) : Sh Unit := do
  let _ ← call (.joinGroup 0 group)
  bringForward descriptor group

def startControl : Sh Unit := do
  let descriptor? ← ownTerminal?
  let found ← match descriptor? with
    | some descriptor => awaitForeground descriptor limit
    | none => pure none
  match descriptor?, found with
  | some descriptor, some group =>
    modify fun s => { s with control := some descriptor, formerGroup := group }
    jobSignals.forM arrange
    moveTo descriptor (← get).process
  | _, _ =>
    warn "can't access tty; job control turned off"
    modify fun s => { s with options := s.options.filter (· != 'm') }
    match descriptor? with
    | some descriptor =>
      let _ ← call (.close descriptor)
    | none => pure ()

-- The group that had the terminal before gets it back.
def endControl (descriptor : Nat) : Sh Unit := do
  let former := (← get).formerGroup
  bringForward descriptor former
  let _ ← call (.joinGroup 0 former)
  jobSignals.forM arrange
  let _ ← call (.close descriptor)
  modify fun s => { s with control := none }

-- Subshells do without job control, whatever the option says.
def controlJobs (on : Bool) : Sh Unit := do
  let s ← get
  match s.control with
  | some descriptor => if !on && s.level = 0 then endControl descriptor
  | none => if on && s.level = 0 then startControl

-- What follows when options have changed.
def applyOptions : Sh Unit := do
  arrangeForUser
  controlJobs (← has 'm')

end TermBridge.Shell.Sh
