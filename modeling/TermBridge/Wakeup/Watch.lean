import TermBridge.Wakeup.Signal

namespace TermBridge

namespace WakeupSignal

-- What a read of the pipe gives: some bytes, word that it is empty, or a failure.
inductive ReadAnswer where
  | took (bytes : Nat)
  | empty
  | failed (e : Errno)
  deriving DecidableEq, Repr

namespace ReadAnswer

def bytes : ReadAnswer → Nat
  | .took bytes => bytes
  | .empty | .failed _ => 0

def total : List ReadAnswer → Nat
  | [] => 0
  | answer :: rest => answer.bytes + total rest

-- Whether another read follows.
def goesOn : ReadAnswer → Bool
  | .took _ => true
  | .empty => false
  | .failed e => e = Errno.interrupted

end ReadAnswer

-- The next read, and the signal and the plan that the reads behind it find.
def read (s : WakeupSignal) (plan : Plan) : ReadAnswer × WakeupSignal × Plan :=
  match plan.next with
  | (some e, rest) => (.failed e, s, rest)
  | (none, rest) =>
    if s.bytes = 0 then (.empty, s, rest) else (.took (min readSize s.bytes), s.readBytes, rest)

-- Every read that another one follows uses up a planned one or takes bytes from the pipe.
theorem read_lt {s next : WakeupSignal} {plan rest : Plan} {answer : ReadAnswer}
    (h : s.read plan = (answer, next, rest)) (hg : answer.goesOn = true) :
    rest.length + next.bytes < plan.length + s.bytes := by
  have hrest : plan.next.2.length ≤ plan.length ∧
      ∀ e, plan.next.1 = some e → plan.next.2.length < plan.length := by
    cases plan <;> simp [Plan.next]
  unfold read at h
  split at h
  next e plan' hnext =>
    cases h
    have hlt := hrest.2 e (by rw [hnext])
    rw [hnext] at hlt
    simp only at hlt
    omega
  next plan' hnext =>
    have hle := hrest.1
    rw [hnext] at hle
    simp only at hle
    split at h
    · cases h
      exact Bool.noConfusion hg
    · cases h
      simp only [readBytes, readSize]
      omega

-- The reads of a draining, each with what it gives.
def reads (s : WakeupSignal) (plan : Plan) : List ReadAnswer :=
  match _h : s.read plan with
  | (answer, next, rest) => answer :: if _hg : answer.goesOn = true then next.reads rest else []
termination_by plan.length + s.bytes
decreasing_by exact read_lt _h _hg

end WakeupSignal

-- A pipe that somebody else writes into. It can be read at its end as well.
structure OtherPipe where
  bytes : Nat := 0
  closed : Bool := false
  deriving DecidableEq, Repr

namespace OtherPipe

def readable (p : OtherPipe) : Bool :=
  p.bytes != 0 || p.closed

def write (p : OtherPipe) : OtherPipe :=
  if p.closed then p else { p with bytes := p.bytes + 1 }

def close (p : OtherPipe) : OtherPipe :=
  { p with closed := true }

-- Reads one byte, or none at the end.
def read (p : OtherPipe) : Waited Nat × OtherPipe :=
  if p.bytes != 0 then (.ready 1, { p with bytes := p.bytes - 1 })
  else if p.closed then (.ready 0, p)
  else (.blocked, p)

end OtherPipe

structure Watch where
  signal : WakeupSignal := .fresh
  other : OtherPipe := {}
  pollPlan : Plan := []
  readPlan : Plan := []
  deriving DecidableEq, Repr

namespace Watch

inductive Operation where
  | set
  | reset
  | wait
  | waitOrReadable
  | writeOther
  | closeOther
  | readOther
  deriving DecidableEq, Repr

inductive Answer where
  | done
  | waited (result : Waited Unit)
  | woken (result : Waited Wake)
  | read (result : Waited Nat)
  deriving DecidableEq, Repr

-- One that would wait for ever is not begun.
def poll (w : Watch) {α : Type} (result : Waited α × Plan) : Watch :=
  match result with
  | (.blocked, _) => w
  | (_, plan) => { w with pollPlan := plan }

def perform (w : Watch) : Operation → Answer × Watch
  | .set => (.done, { w with signal := w.signal.set })
  | .reset =>
    let (signal, plan) := w.signal.reset w.readPlan
    (.done, { w with signal := signal, readPlan := plan })
  | .wait =>
    let result := w.signal.wait w.pollPlan
    (.waited result.1, w.poll result)
  | .waitOrReadable =>
    let result := w.signal.waitOrReadable w.other.readable w.pollPlan
    (.woken result.1, w.poll result)
  | .writeOther => (.done, { w with other := w.other.write })
  | .closeOther => (.done, { w with other := w.other.close })
  | .readOther =>
    let (result, other) := w.other.read
    (.read result, { w with other := other })

-- What a sequence of operations answers, and how it leaves the watch.
def performAll (w : Watch) : List Operation → List Answer × Watch
  | [] => ([], w)
  | operation :: rest =>
    let first := w.perform operation
    let others := first.2.performAll rest
    (first.1 :: others.1, others.2)

end Watch

end TermBridge
