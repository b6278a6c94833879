import TermBridge.Terminal.Size
import TermBridge.Wakeup.Signal

namespace TermBridge.Interleaving

variable {workers : Nat}

-- How far a call of `set` has come. A call that has found the flag down owes the pipe a byte.
inductive Call where
  | waiting
  | writing
  | returned
  deriving DecidableEq, Repr

-- Who sets the signal: a worker that finishes, or the handler of a size change. Each does so once.
inductive Setter (workers : Nat) where
  | worker (w : Fin workers)
  | handler (h : Nat)
  deriving DecidableEq, Repr

-- Where the main loop stands. It looks at the workers one after another.
inductive Point (workers : Nat) where
  | polling
  | draining
  | clearing
  | querying
  | checking (next : Fin workers) (left : List (Fin workers))
  | ended
  deriving DecidableEq, Repr

-- With no worker left to look at the loop is back at its poll.
def Point.ofUnchecked : List (Fin workers) → Point workers
  | [] => .polling
  | next :: left => .checking next left

structure State (workers : Nat) where
  signal : WakeupSignal := .fresh
  point : Point workers := .polling
  call : Setter workers → Call := fun _ => .waiting
  -- The workers' own flags.
  done : Fin workers → Bool := fun _ => false
  -- The size changes that have happened, each known by the handler that it raises.
  changed : Nat → Bool := fun _ => false
  -- The terminal's size, and the one that the loop has last been told.
  size : TerminalSize
  known : TerminalSize

def start (opening : TerminalSize) : State workers :=
  { size := opening, known := opening }

namespace State

-- What comes before a setter's call: a worker stores its flag, a handler runs when the size has changed.
def begun (s : State workers) : Setter workers → Bool
  | .worker w => s.done w
  | .handler h => s.changed h

def setCall (s : State workers) (x : Setter workers) (c : Call) : State workers :=
  { s with call := fun y => if y = x then c else s.call y }

-- The first half of `set`. A flag that was up before leaves nothing more to do.
def swap (s : State workers) (x : Setter workers) : State workers :=
  { s with signal := s.signal.swap.2 }.setCall x (if s.signal.swap.1 then .returned else .writing)

-- The second half of `set`.
def write (s : State workers) (x : Setter workers) : State workers :=
  { s with signal := s.signal.writeByte }.setCall x .returned

end State

inductive Action (workers : Nat) where
  | poll
  | read
  | clear
  | query
  | check
  | store (w : Fin workers)
  | change (h : Nat) (size : TerminalSize)
  | swap (x : Setter workers)
  | write (x : Setter workers)
  deriving DecidableEq, Repr

-- Each access to a flag and each system call is one step, so that the others can come between any two.
inductive Step (s : State workers) : Action workers → State workers → Prop where
  | poll (hp : s.point = .polling) (hr : s.signal.readable = true) :
    Step s .poll { s with point := .draining }
  | read (hp : s.point = .draining) (hr : s.signal.readable = true) :
    Step s .read { s with signal := s.signal.readBytes }
  -- A read that finds the pipe empty ends the draining.
  | readEmpty (hp : s.point = .draining) (hr : s.signal.readable = false) :
    Step s .read { s with point := .clearing }
  | clear (hp : s.point = .clearing) :
    Step s .clear { s with signal := s.signal.clear, point := .querying }
  | query (hp : s.point = .querying) :
    Step s .query { s with known := s.size, point := .ofUnchecked (List.finRange workers) }
  | checkDone {next : Fin workers} {left : List (Fin workers)} (hp : s.point = .checking next left)
    (hd : s.done next = true) : Step s .check { s with point := .ended }
  | checkRunning {next : Fin workers} {left : List (Fin workers)} (hp : s.point = .checking next left)
    (hd : s.done next = false) : Step s .check { s with point := .ofUnchecked left }
  | store {w : Fin workers} (hd : s.done w = false) :
    Step s (.store w) { s with done := fun v => if v = w then true else s.done v }
  | change {h : Nat} {size : TerminalSize} (hc : s.changed h = false) :
    Step s (.change h size)
      { s with size := size, changed := fun k => if k = h then true else s.changed k }
  | swap {x : Setter workers} (hb : s.begun x = true) (hc : s.call x = .waiting) :
    Step s (.swap x) (s.swap x)
  | write {x : Setter workers} (hc : s.call x = .writing) : Step s (.write x) (s.write x)

-- Any number of steps, in any order that their own threads allow.
inductive Run : State workers → List (Action workers) → State workers → Prop where
  | nil (s : State workers) : Run s [] s
  | cons {s s' s'' : State workers} {a : Action workers} {rest : List (Action workers)}
    (first : Step s a s') (others : Run s' rest s'') : Run s (a :: rest) s''

end TermBridge.Interleaving
