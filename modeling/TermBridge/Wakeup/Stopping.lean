import TermBridge.Trace
import TermBridge.Wakeup.Signal

namespace TermBridge

structure Stopping where
  signal : WakeupSignal := .fresh
  -- A call of `set` has found the flag down and has not written its byte yet.
  owing : Bool := false
  deriving DecidableEq, Repr

namespace Stopping

-- The halves of `set`. The second one is left out where the flag was up before.
inductive Half where
  | swap
  | write
  deriving DecidableEq, Repr

-- The owner makes one call after another.
inductive Step (s : Stopping) : Half → Stopping → Prop where
  | swap (h : s.owing = false) : Step s .swap ⟨s.signal.swap.2, !s.signal.swap.1⟩
  | write (h : s.owing = true) : Step s .write ⟨s.signal.writeByte, false⟩

-- Whoever is told to stop finds a byte in the pipe.
def Requested (s : Stopping) : Prop :=
  s.signal.readable = true

end Stopping

end TermBridge
