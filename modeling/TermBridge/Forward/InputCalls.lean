import TermBridge.Forward.Calls
import TermBridge.Forward.Input
import TermBridge.Wakeup.Stopping

namespace TermBridge.InputCalls

inductive Point where
  | polling
  | reading
  | writing (left : Bytes)
  | flushing
  | ended (why : InputEnding)
  deriving DecidableEq, Repr

namespace Point

def afterPoll : Except Errno Wake → Point
  | .ok .signalled => .ended .stopped
  | .ok .readable => .reading
  | .error e => if e = Errno.interrupted then .polling else .ended (.pollFailed e)

def afterRead : Except Errno Bytes → Point
  | .ok [] => .ended .endOfSource
  | .ok (b :: bytes) => .writing (b :: bytes)
  | .error e => if e = Errno.interrupted then .polling else .ended (.readFailed e)

-- A chunk is written and flushed as the output worker does it. Then the worker polls again.
def ofOutput : OutputWorker.Point → Point
  | .reading => .polling
  | .writing left => .writing left
  | .flushing => .flushing
  | .ended => .ended .sinkFailed

-- What has been read and not been written yet.
def left : Point → Bytes
  | .writing left => left
  | _ => []

end Point

structure State where
  stop : Stopping := {}
  point : Point := .polling
  deriving DecidableEq, Repr

inductive Action where
  | set (half : Stopping.Half)
  | poll (answer : Except Errno Wake)
  | read (answer : Except Errno Bytes)
  | write (offered : Bytes) (reply : WriteReply)
  | flush (failure : Option FailureKind)

namespace Action

def isSet : Action → Bool
  | .set _ => true
  | _ => false

def isRead : Action → Bool
  | .read _ => true
  | _ => false

-- Calls that the source and the stop signal answer.
def isAnswered : Action → Bool
  | .poll _ | .read _ => true
  | _ => false

-- What a read takes from the source, and what a write gives to the sink.

def bytesRead : Action → Bytes
  | .read (.ok bytes) => bytes
  | _ => []

def bytesTaken : Action → Bytes
  | .write offered reply => reply.taken offered
  | _ => []

end Action

def allRead (actions : List Action) : Bytes :=
  actions.flatMap Action.bytesRead

def allTaken (actions : List Action) : Bytes :=
  actions.flatMap Action.bytesTaken

-- The poll does not bind the read behind it: by then the source may have nothing left or fail.
inductive Step (s : State) : Action → State → Prop where
  | set {half : Stopping.Half} {stop : Stopping} (h : s.stop.Step half stop) :
    Step s (.set half) { s with stop := stop }
  -- A poll returns when the stop signal or the source can be read.
  | poll {sourceReadable : Bool} {wake : Wake} (hp : s.point = .polling)
    (hw : s.stop.signal.wakeOf sourceReadable = some wake) :
    Step s (.poll (.ok wake)) { s with point := .afterPoll (.ok wake) }
  | pollFailed (e : Errno) (hp : s.point = .polling) :
    Step s (.poll (.error e)) { s with point := .afterPoll (.error e) }
  | read {bytes : Bytes} (hp : s.point = .reading) (hlen : bytes.length ≤ bufferSize) :
    Step s (.read (.ok bytes)) { s with point := .afterRead (.ok bytes) }
  | readFailed (e : Errno) (hp : s.point = .reading) :
    Step s (.read (.error e)) { s with point := .afterRead (.error e) }
  | write {left : Bytes} (reply : WriteReply) (hp : s.point = .writing left) :
    Step s (.write left reply) { s with point := .ofOutput (.afterWrite left reply) }
  | flush (failure : Option FailureKind) (hp : s.point = .flushing) :
    Step s (.flush failure) { s with point := .ofOutput (.afterFlush failure) }

-- How the source and the sink of a worker answer its calls. Each of them takes its entry of the plan; a poll
-- that has been waiting has taken it before.
inductive Answers (w : InputWorker) : Action → InputWorker → Prop where
  | woken {wake : Wake} (hp : w.polling = true) (hw : w.stop.wakeOf w.source.readable = some wake) :
    Answers w (.poll (.ok wake)) { w with polling := false }
  | poll {wake : Wake} (hp : w.polling = false) (hplan : w.pollPlan.next.1 = none)
    (hw : w.stop.wakeOf w.source.readable = some wake) :
    Answers w (.poll (.ok wake)) { w with pollPlan := w.pollPlan.next.2 }
  | pollFailed {e : Errno} (hp : w.polling = false) (hplan : w.pollPlan.next.1 = some e) :
    Answers w (.poll (.error e)) { w with pollPlan := w.pollPlan.next.2 }
  -- Only a source that has ended answers with no bytes.
  | read (hplan : w.readPlan.next.1 = none) (hb : w.source.broken = none) (hr : w.source.readable = true) :
    Answers w (.read (.ok (w.source.waiting.take bufferSize)))
      { w with
        readPlan := w.readPlan.next.2
        source := { w.source with waiting := w.source.waiting.drop bufferSize } }
  | readFailed {e : Errno} (hplan : w.readPlan.next.1 = some e) :
    Answers w (.read (.error e)) { w with readPlan := w.readPlan.next.2 }
  | broken {e : Errno} (hplan : w.readPlan.next.1 = none) (hb : w.source.broken = some e) :
    Answers w (.read (.error e)) { w with readPlan := w.readPlan.next.2 }
  | write (offered : Bytes) :
    Answers w (.write offered w.sink.nextWrite) { w with sink := w.sink.write offered }
  | flush : Answers w (.flush w.sink.nextFlush) { w with sink := w.sink.flush.1 }

-- Where a worker stands between two operations of its owner.
def State.ofWorker (w : InputWorker) : State where
  stop := ⟨w.stop, false⟩
  point := w.ending.elim .polling .ended

end TermBridge.InputCalls
