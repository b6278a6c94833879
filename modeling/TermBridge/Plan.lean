import TermBridge.Errno

namespace TermBridge

-- One error number a call, where a zero lets the call through. Calls behind the end are let through.
abbrev Plan := List Errno

def Errno.passes (e : Errno) : Bool :=
  e.code == 0

namespace Plan

-- The failure of the next call, if it fails, and the plan for the calls after it.
def next : Plan → Option Errno × Plan
  | [] => (none, [])
  | e :: rest => (if e.passes then none else some e, rest)

-- The first failure among the next `n` calls.
def firstFailure (n : Nat) (plan : Plan) : Option Errno :=
  (plan.take n).find? fun e => !e.passes

end Plan

-- What comes of a call that may have to wait.
inductive Waited (α : Type) where
  | ready (value : α)
  | failed (e : Errno)
  | blocked
  deriving DecidableEq, Repr

-- Waits for something that is ready now or not at all. An interrupted wait is started again.
def Plan.poll {α : Type} (ready : Option α) : Plan → Waited α × Plan
  | [] => (match ready with | some a => .ready a | none => .blocked, [])
  | e :: rest =>
    if e = Errno.interrupted then poll ready rest
    else if e.passes then (match ready with | some a => .ready a | none => .blocked, rest)
    else (.failed e, rest)

end TermBridge
