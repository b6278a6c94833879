import TermBridge.Unix.Call
import TermBridge.Unix.Signals

namespace TermBridge.Unix

-- An open file by its number, and whether it is closed when another program takes over.
structure Slot where
  file : Nat
  closeOnExecute : Bool := false
  deriving DecidableEq, Repr

inductive Phase where
  | running
  | stopped
  | ended (status : Status)
  deriving DecidableEq, Repr

structure Process where
  id : Nat
  parent : Nat
  group : Nat
  behaviour : Behaviour
  phase : Phase := .running
  -- What the parent has not been told yet.
  news : Option Change := none
  descriptors : List (Nat × Slot) := []
  -- The signals that are ignored, and those that are noted, with the noted ones that the process has
  -- not looked at.
  ignored : List Nat := []
  caught : List Nat := []
  noted : List Nat := []
  -- What has come while it was stopped, and waits until it goes on.
  held : List Nat := []
  -- The call at hand could not be answered yet; a signal was noted since then; it is answered at this
  -- time at the latest.
  blocked : Bool := false
  interrupted : Bool := false
  deadline : Option Nat := none
  -- The permissions that are withheld from new files.
  mask : Nat := 0o022
  working : Files.Id := FileSystem.root

namespace Process

def isRunning (p : Process) : Bool :=
  p.phase = .running

def isAlive (p : Process) : Bool :=
  match p.phase with
  | .ended _ => false
  | _ => true

def slot? (p : Process) (descriptor : Nat) : Option Slot :=
  p.descriptors.lookup descriptor

-- No process has more descriptors than this.
def descriptorLimit : Nat := 1024

-- The least number from `least` on that is free. The fuel is the number of numbers taken.
def freeFrom (p : Process) (least : Nat) : Nat → Nat
  | 0 => least
  | fuel + 1 => if (p.slot? least).isSome then p.freeFrom (least + 1) fuel else least

def free (p : Process) (least : Nat) : Nat :=
  p.freeFrom least p.descriptors.length

def drop (p : Process) (descriptor : Nat) : Process :=
  { p with descriptors := p.descriptors.filter (·.1 != descriptor) }

def assign (p : Process) (descriptor : Nat) (slot : Slot) : Process :=
  { p with descriptors := (descriptor, slot) :: (p.drop descriptor).descriptors }

def disposition (p : Process) (signal : Nat) : Disposition :=
  if p.ignored.contains signal then .ignored
  else if p.caught.contains signal then .caught
  else .standard

def arrange (p : Process) (signal : Nat) (d : Disposition) : Process :=
  let ignored := p.ignored.filter (· != signal)
  let caught := p.caught.filter (· != signal)
  match d with
  | .standard => { p with ignored := ignored, caught := caught }
  | .ignored => { p with ignored := signal :: ignored, caught := caught }
  | .caught => { p with ignored := ignored, caught := signal :: caught }

def note (p : Process) (signal : Nat) : Process :=
  { p with
    noted := if p.noted.contains signal then p.noted else p.noted ++ [signal]
    interrupted := p.interrupted || p.blocked }

-- Goes on with an answer to the call at hand.
def resume (p : Process) (b : Behaviour) : Process :=
  { p with behaviour := b, blocked := false, interrupted := false, deadline := none }

-- Another program takes the place of the one that the process runs. Signals are no longer noted, since
-- nobody is there to look.
def become (p : Process) (b : Behaviour) : Process :=
  { p.resume b with
    caught := []
    noted := []
    descriptors := p.descriptors.filter (!·.2.closeOnExecute) }

-- A child of the process, with all that it inherits.
def child (p : Process) (id : Nat) (b : Behaviour) : Process :=
  { p.resume b with id := id, parent := p.id, news := none, noted := [], held := [] }

end Process

end TermBridge.Unix
