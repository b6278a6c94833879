import TermBridge.Wakeup.Signal

namespace TermBridge

structure Completion where
  done : Bool := false
  wakeup : WakeupSignal := .fresh
  deriving DecidableEq, Repr

namespace Completion

-- The flag is stored before the main loop is woken, so the loop finds it stored when it looks.
def finish (c : Completion) : Completion :=
  ⟨true, c.wakeup.set⟩

end Completion

-- The size of a worker's buffer, the most that one read can return.
def bufferSize : Nat := 65536

end TermBridge
