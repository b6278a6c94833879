import TermBridge.Forward.Completion
import TermBridge.Forward.Sink

namespace TermBridge

-- Bytes that can be read, whether more may come, and how reading fails if it always does.
structure InputSource where
  waiting : Bytes := []
  ended : Bool := false
  broken : Option Errno := none
  deriving DecidableEq, Repr

namespace InputSource

def pipe : InputSource := {}

def file (content : Bytes) : InputSource := { waiting := content, ended := true }

-- A directory can be opened and polled, but not read.
def directory : InputSource := { ended := true, broken := some ⟨21⟩ }

def readable (s : InputSource) : Bool :=
  !s.waiting.isEmpty || s.ended

end InputSource

inductive InputEnding where
  | stopped
  | pollFailed (e : Errno)
  | endOfSource
  | readFailed (e : Errno)
  | sinkFailed
  deriving DecidableEq, Repr

structure InputWorker where
  source : InputSource
  sink : Sink := {}
  pollPlan : Plan := []
  readPlan : Plan := []
  stop : WakeupSignal := .fresh
  -- A poll call has been made and has not returned yet.
  polling : Bool := false
  ending : Option InputEnding := none
  completion : Completion := {}
  deriving DecidableEq, Repr

namespace InputWorker

def finish (w : InputWorker) (why : InputEnding) : InputWorker :=
  { w with polling := false, ending := some why, completion := w.completion.finish }

-- The end of the poll call: what it found, or no end yet.
def poll (w : InputWorker) : Waited Wake × InputWorker :=
  if w.polling then
    match w.stop.wakeOf w.source.readable with
    | some wake => (.ready wake, { w with polling := false })
    | none => (.blocked, w)
  else
    match w.stop.waitOrReadable w.source.readable w.pollPlan with
    | (.blocked, plan) => (.blocked, { w with polling := true, pollPlan := plan })
    | (result, plan) => (result, { w with pollPlan := plan })

inductive Forwarded where
  | again
  | ended (why : InputEnding)
  deriving DecidableEq, Repr

-- A read that is let through, and the writing of what it returns.
def forwardWaiting (w : InputWorker) : Forwarded × InputWorker :=
  match w.source.broken with
  | some e => (.ended (.readFailed e), w)
  | none =>
    if w.source.waiting.isEmpty then (.ended .endOfSource, w)
    else
      let put := w.sink.put (w.source.waiting.take bufferSize)
      (if put.2 then .again else .ended .sinkFailed,
        { w with
          sink := put.1
          source := { w.source with waiting := w.source.waiting.drop bufferSize } })

def forwardOnce (w : InputWorker) : Forwarded × InputWorker :=
  match w.readPlan.next with
  | (some e, plan) =>
    (if e = Errno.interrupted then .again else .ended (.readFailed e), { w with readPlan := plan })
  | (none, plan) => forwardWaiting { w with readPlan := plan }

-- How much the worker can still do without new input: every round uses up a planned read or takes
-- bytes from the source.
def work (w : InputWorker) : Nat :=
  w.readPlan.length + w.source.waiting.length

theorem poll_work (w : InputWorker) : w.poll.2.work = w.work := by
  simp only [poll]
  split
  · split <;> rfl
  · split <;> rfl

theorem forwardWaiting_work_lt (w : InputWorker) (h : w.forwardWaiting.1 = .again) :
    w.forwardWaiting.2.work < w.work := by
  unfold forwardWaiting at h ⊢
  cases hb : w.source.broken with
  | some e => simp [hb] at h
  | none =>
    by_cases hs : w.source.waiting.isEmpty = true
    · simp [hb, hs] at h
    · have hpos := List.length_pos_iff.mpr (mt List.isEmpty_iff.mpr hs)
      simp only [hs, work, bufferSize, Bool.false_eq_true, if_false, List.length_drop]
      omega

theorem forwardOnce_work_lt (w : InputWorker) (h : w.forwardOnce.1 = .again) :
    w.forwardOnce.2.work < w.work := by
  unfold forwardOnce at h ⊢
  cases hp : w.readPlan with
  | nil =>
    simp only [hp, Plan.next] at h ⊢
    have hlt := forwardWaiting_work_lt _ h
    simpa only [work, hp] using hlt
  | cons e plan =>
    cases hpass : e.passes with
    | true =>
      simp only [hp, Plan.next, hpass, if_true] at h ⊢
      have hlt := forwardWaiting_work_lt _ h
      simp only [work, hp, List.length_cons] at hlt ⊢
      omega
    | false =>
      simp only [Plan.next, hpass, work, hp, List.length_cons, Bool.false_eq_true, if_false]
      omega

-- Runs the worker until it has ended or waits for input.
def advance (w : InputWorker) : InputWorker :=
  if w.completion.done then w
  else
    match _hp : w.poll with
    | (.blocked, polled) => polled
    | (.failed e, polled) => polled.finish (.pollFailed e)
    | (.ready .signalled, polled) => polled.finish .stopped
    | (.ready .readable, polled) =>
      match _hf : polled.forwardOnce with
      | (.ended why, ended) => ended.finish why
      | (.again, next) => next.advance
termination_by w.work
decreasing_by
  have h1 := poll_work w
  have h2 := forwardOnce_work_lt polled (by rw [_hf])
  rw [_hp] at h1
  rw [_hf] at h2
  simp only at h1 h2
  omega

-- What the owner of the worker and of its source can do.

def start (w : InputWorker) : InputWorker :=
  w.advance

def write (chunk : Bytes) (w : InputWorker) : InputWorker :=
  if w.completion.done || w.source.ended then w
  else advance { w with source := { w.source with waiting := w.source.waiting ++ chunk } }

def close (w : InputWorker) : InputWorker :=
  advance { w with source := { w.source with ended := true } }

def shutdown (w : InputWorker) : InputWorker :=
  advance { w with stop := w.stop.set }

inductive Action where
  | write (chunk : Bytes)
  | close
  | wait
  | shutdown
  deriving DecidableEq, Repr

-- Waiting is left to the owner: the worker goes on as far as it can in each of its operations.
def perform (w : InputWorker) : Action → InputWorker
  | .write chunk => w.write chunk
  | .close => w.close
  | .wait => w
  | .shutdown => w.shutdown

def performAll (w : InputWorker) (actions : List Action) : InputWorker :=
  actions.foldl perform w

-- What an action puts into the source. One that is closed takes nothing, as one that nobody reads.
def accepted (w : InputWorker) : Action → Bytes
  | .write chunk => if w.completion.done || w.source.ended then [] else chunk
  | .close | .wait | .shutdown => []

def acceptedAll (w : InputWorker) : List Action → Bytes
  | [] => []
  | action :: rest => w.accepted action ++ (w.perform action).acceptedAll rest

end InputWorker

end TermBridge
