import TermBridge.Trace
import TermBridge.Wakeup.Watch

namespace TermBridge

namespace Resetting

inductive Point where
  | draining
  | clearing
  | cleared
  deriving DecidableEq, Repr

end Resetting

structure Resetting where
  signal : WakeupSignal := .fresh
  -- The calls of `set` that have found the flag down and have not written their byte yet. It does not
  -- matter whose they are.
  owing : Nat := 0
  point : Resetting.Point := .draining
  deriving DecidableEq, Repr

namespace Resetting

open WakeupSignal (ReadAnswer)

def Point.afterRead (answer : ReadAnswer) : Point :=
  if answer.goesOn then .draining else .clearing

inductive Action where
  -- The halves of a call of `set`. The second one is left out where the flag was up before.
  | swap
  | write
  | read (answer : ReadAnswer)
  | clear
  deriving DecidableEq, Repr

namespace Action

def isWrite : Action → Bool
  | .write => true
  | _ => false

-- A read that is not interrupted.
def isRead : Action → Bool
  | .read answer => answer ≠ .failed Errno.interrupted
  | _ => false

def bytesRead : Action → Nat
  | .read answer => answer.bytes
  | _ => 0

end Action

inductive Step (s : Resetting) : Action → Resetting → Prop where
  | swap : Step s .swap
      { s with signal := s.signal.swap.2, owing := s.owing + if s.signal.swap.1 then 0 else 1 }
  | write (h : 0 < s.owing) : Step s .write { s with signal := s.signal.writeByte, owing := s.owing - 1 }
  -- Whether a read fails is left open.
  | read {plan rest : Plan} {answer : ReadAnswer} {next : WakeupSignal} (hp : s.point = .draining)
    (hr : s.signal.read plan = (answer, next, rest)) :
    Step s (.read answer) { s with signal := next, point := .afterRead answer }
  | clear (hp : s.point = .clearing) : Step s .clear { s with signal := s.signal.clear, point := .cleared }

end Resetting

end TermBridge
