import TermBridge.Shell.State

namespace TermBridge.Shell.Sh

open Unix (Disposition)

def reception? (signal : Nat) : Sh (Option Reception) := do
  return (← get).receptions.lookup signal

def setReception (signal : Nat) (r : Reception) : Sh Unit :=
  modify fun s => { s with receptions := (signal, r) :: s.receptions.filter (·.1 != signal) }

def trap? (signal : Nat) : Sh (Option String) := do
  return (← get).traps.lookup signal

-- A signal that moves processes between the foreground and the background.
def isJobSignal (signal : Nat) : Bool :=
  signal = Signals.keyboardStop || signal = Signals.backgroundRead || signal = Signals.backgroundWrite

-- How the shell itself wants to take a signal that has no trap.
def wanted (s : State) (signal : Nat) : Reception :=
  if signal = Signals.childEnded then .caught
  else if 0 < s.level then .standard
  else if signal = Signals.interrupt then
    if s.options.contains 'i' || s.fromArgument || !s.options.contains 's' then .caught else .standard
  else if signal = Signals.quit || signal = Signals.terminate then
    if s.options.contains 'i' then .ignored else .standard
  else if signal = Signals.keyboardStop || signal = Signals.backgroundWrite then
    if s.options.contains 'm' then .ignored else .standard
  else .standard

def dispositionOf : Reception → Disposition
  | .standard => .standard
  | .ignored | .shutOut => .ignored
  | .caught => .caught

-- Arranges a signal. What was ignored from the beginning stays so.
def arrange (signal : Nat) : Sh Unit := do
  let s ← get
  let goal := match s.traps.lookup signal with
    | none => wanted s signal
    | some "" => if signal = Signals.childEnded then Reception.caught else .ignored
    | some _ => .caught
  let d := dispositionOf goal
  match ← reception? signal with
  | some r =>
    if r ≠ .shutOut && r ≠ goal then
      let _ ← call (.arrange signal d)
      setReception signal goal
  | none =>
    match ← call (.arrange signal d) with
    | .error _ => return ()
    | .ok before =>
      if before = .ignored && !(isJobSignal signal && s.options.contains 'm') then
        let _ ← call (.arrange signal .ignored)
        setReception signal .shutOut
      else setReception signal goal

-- Ignores a signal for good.
def shutOut (signal : Nat) : Sh Unit := do
  let _ ← call (.arrange signal .ignored)
  setReception signal .shutOut

-- Arranges signals as it suits an interactive shell, or one that is not.
def arrangeForUser : Sh Unit := do
  let interactive ← isInteractive
  if (← get).interactiveSignals ≠ some interactive then
    modify fun s => { s with interactiveSignals := some interactive }
    [Signals.interrupt, Signals.quit, Signals.terminate].forM arrange

-- Traps with commands are not handed on to subshells.
def clearTraps : Sh Unit := do
  let cleared := (← get).traps.filter fun t => !t.2.isEmpty
  modify fun s => { s with traps := s.traps.filter fun t => t.2.isEmpty }
  cleared.forM fun t => if t.1 = Signals.atExit then pure () else arrange t.1

def hasTraps : Sh Bool := do
  return (← get).traps.any fun t => !t.2.isEmpty

-- Takes note of the signals that have come.
def notice : Sh Unit := do
  let news ← call .noted
  if news.isEmpty then return ()
  else
    modify fun s =>
      let counts (n : Nat) := !s.pending.contains n &&
        (n ≠ Signals.childEnded || (s.traps.lookup n).isSome)
      { s with pending := s.pending ++ news.filter counts }

-- An interrupt without a trap. A shell without a user is killed by it.
def beInterrupted : Sh Unit := do
  modify fun s => { s with pending := s.pending.filter (· != Signals.interrupt) }
  let s ← get
  if 0 < s.level || !s.options.contains 'i' then
    let _ ← call (.arrange Signals.interrupt .standard)
    let _ ← call (.signal (.process (← call .identity).process) Signals.interrupt)
    call .pass
  modify fun s => { s with status := Unix.Status.code (.killed Signals.interrupt) }
  raise .interrupt

def checkInterrupt : Sh Unit := do
  notice
  let s ← get
  if s.pending.contains Signals.interrupt && (s.traps.lookup Signals.interrupt).isNone then
    beInterrupted

-- Whether a signal with a trap has come.
def isDisturbed : Sh Bool := do
  notice
  return !(← get).pending.isEmpty

-- Runs the traps of the signals that have come, in the order of their numbers, and keeps the status.
def runTraps (run : String → Sh Nat) : Sh Unit := do
  checkInterrupt
  let s ← get
  if s.pending.isEmpty then return ()
  else
    let status := s.keptStatus.getD s.status
    set { s with keptStatus := some status }
    go (s.pending.mergeSort fun a b => a ≤ b) status
    modify fun now => { now with keptStatus := s.keptStatus }
where
  go : List Nat → Nat → Sh Unit
    | [], _ => return ()
    | signal :: rest, status => do
      if (← get).skip ≠ .nothing then return ()
      else
        modify fun s => { s with pending := s.pending.filter (· != signal) }
        match ← trap? signal with
        | none => go rest status
        | some text => do
          let _ ← run text
          if (← get).skip ≠ .function true then modify fun s => { s with status := status }
          go rest status

end TermBridge.Shell.Sh
