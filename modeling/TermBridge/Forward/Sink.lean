import TermBridge.Text.Utf8

namespace TermBridge

-- The kinds of failure that a read or a write may report.
inductive FailureKind where
  | interrupted
  | brokenPipe
  | wouldBlock
  | other
  deriving DecidableEq, Repr

inductive WriteReply where
  | takeAll
  | takeUpTo (n : Nat)
  | fail (kind : FailureKind)
  deriving DecidableEq, Repr

-- Calls behind the end of a plan take all, and flush without failure.
structure Sink where
  writePlan : List WriteReply := []
  flushPlan : List (Option FailureKind) := []
  -- The bytes taken so far, how many were offered in each write call, and the number of flushes.
  taken : Bytes := []
  offered : List Nat := []
  flushes : Nat := 0
  deriving DecidableEq, Repr

namespace Sink

def offer (s : Sink) (chunk : Bytes) : Sink :=
  { s with offered := s.offered ++ [chunk.length] }

def take (s : Sink) (chunk : Bytes) : Sink :=
  { s with taken := s.taken ++ chunk }

-- Writes a chunk under a plan. A write that takes nothing is a failure.
def writeUnder (s : Sink) : List WriteReply → Bytes → Sink × Bool
  | plan, [] => ({ s with writePlan := plan }, true)
  | [], chunk => ({ (s.offer chunk).take chunk with writePlan := [] }, true)
  | reply :: plan, chunk =>
    match reply with
    | .takeAll => ({ (s.offer chunk).take chunk with writePlan := plan }, true)
    | .takeUpTo 0 => ({ s.offer chunk with writePlan := plan }, false)
    | .takeUpTo (n + 1) =>
      ((s.offer chunk).take (chunk.take (n + 1))).writeUnder plan (chunk.drop (n + 1))
    | .fail .interrupted => (s.offer chunk).writeUnder plan chunk
    | .fail _ => ({ s.offer chunk with writePlan := plan }, false)

def writeAll (s : Sink) (chunk : Bytes) : Sink × Bool :=
  s.writeUnder s.writePlan chunk

def flush (s : Sink) : Sink × Bool :=
  match s.flushPlan with
  | [] => ({ s with flushes := s.flushes + 1 }, true)
  | reply :: plan => ({ s with flushes := s.flushes + 1, flushPlan := plan }, reply.isNone)

-- Writes a chunk and flushes. Whether all of that worked is the second component.
def put (s : Sink) (chunk : Bytes) : Sink × Bool :=
  match s.writeAll chunk with
  | (s, true) => s.flush
  | (s, false) => (s, false)

end Sink

end TermBridge
