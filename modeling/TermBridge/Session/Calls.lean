import TermBridge.Session.Output
import TermBridge.Wakeup.Stopping

namespace TermBridge.OutputCalls

-- Where a call with a buffer of `n` bytes stands.
inductive Point where
  | idle
  | polling (n : Nat)
  | reading (n : Nat)
  | returning (result : Except Errno Bytes)

structure State where
  stop : Stopping := {}
  framed : Bool
  front : Bytes
  back : Bytes
  ended : Bool := false
  point : Point := .idle

namespace State

def ofOutput (o : SessionOutput) : State where
  stop := ⟨o.master.stop, false⟩
  framed := o.framed
  front := o.front
  back := o.back
  ended := o.ended

def opened (mode : MouseMode) : State :=
  ofOutput (.ofMaster mode {})

def readBack (n : Nat) (s : State) : State :=
  { s with back := s.back.drop n, point := .returning (.ok (s.back.take n)) }

-- The terminal has no more output.
def atEnd (n : Nat) (s : State) : State :=
  { s with ended := s.framed }.readBack n

def afterCall (n : Nat) (s : State) : State :=
  if !s.front.isEmpty then
    { s with front := s.front.drop n, point := .returning (.ok (s.front.take n)) }
  else if s.ended then s.readBack n
  else { s with point := .polling n }

def afterPoll (n : Nat) (s : State) : Except Errno Wake → State
  | .ok .signalled => s.atEnd n
  | .ok .readable => { s with point := .reading n }
  | .error e =>
    { s with point := if e = Errno.interrupted then .polling n else .returning (.error e) }

def afterRead (n : Nat) (s : State) : Except Errno Bytes → State
  | .ok [] => s.atEnd n
  | .ok (b :: bytes) => { s with point := .returning (.ok (b :: bytes)) }
  | .error e =>
    if e = Errno.inputOutput then s.atEnd n
    else { s with point := if MasterSide.isPassing e then .polling n else .returning (.error e) }

end State

inductive Action where
  | set (half : Stopping.Half)
  | call (n : Nat)
  | poll (answer : Except Errno Wake)
  | read (answer : Except Errno Bytes)
  | returned (result : Except Errno Bytes)

namespace Action

def isSet : Action → Bool
  | .set _ => true
  | _ => false

def isRead : Action → Bool
  | .read _ => true
  | _ => false

-- Calls that the terminal and the stop signal answer.
def isAnswered : Action → Bool
  | .poll _ | .read _ => true
  | _ => false

-- The stop signal, and the two ways in which a read tells that the other side has hung up.
def isEnd : Action → Bool
  | .poll (.ok .signalled) => true
  | .read (.ok []) => true
  | .read (.error e) => e = Errno.inputOutput
  | _ => false

-- Failures that the reader of the output is not told of.
def isPassing : Action → Bool
  | .poll (.error e) => e = Errno.interrupted
  | .read (.error e) => MasterSide.isPassing e
  | _ => false

-- Failures that it is told of.
def failure : Action → Option Errno
  | .poll (.error e) => if e = Errno.interrupted then none else some e
  | .read (.error e) =>
    if e = Errno.inputOutput || MasterSide.isPassing e then none else some e
  | _ => none

-- All but the waiting for the terminal.
def shows : Action → Bool
  | .poll (.ok .readable) => false
  | a => !a.isPassing

def bytesRead : Action → Bytes
  | .read (.ok bytes) => bytes
  | _ => []

def bytesReturned : Action → Bytes
  | .returned (.ok bytes) => bytes
  | _ => []

def result? : Action → Option (Except Errno Bytes)
  | .returned result => some result
  | _ => none

end Action

def allRead (actions : List Action) : Bytes :=
  actions.flatMap Action.bytesRead

-- What the terminal gives before its output ends.
def delivered (actions : List Action) : Bytes :=
  (actions.takeWhile (!·.isEnd)).flatMap Action.bytesRead

def allReturned (actions : List Action) : Bytes :=
  actions.flatMap Action.bytesReturned

-- What the reader's own thread does.
def ofReader (actions : List Action) : List Action :=
  actions.filter (!·.isSet)

-- What a reader is to get of an output.
def around : MouseMode → Bytes → Bytes
  | .auto, output => output
  | .force, output => Mouse.enable ++ output ++ Mouse.disable

inductive Step (s : State) : Action → State → Prop where
  | set {half : Stopping.Half} {stop : Stopping} (h : s.stop.Step half stop) :
    Step s (.set half) { s with stop := stop }
  | call {n : Nat} (hn : 0 < n) (hp : s.point = .idle) : Step s (.call n) (s.afterCall n)
  -- A poll returns when the stop signal or the terminal can be read.
  | poll {n : Nat} {masterReadable : Bool} {wake : Wake} (hp : s.point = .polling n)
    (hw : s.stop.signal.wakeOf masterReadable = some wake) :
    Step s (.poll (.ok wake)) (s.afterPoll n (.ok wake))
  | pollFailed {n : Nat} (e : Errno) (hp : s.point = .polling n) :
    Step s (.poll (.error e)) (s.afterPoll n (.error e))
  | read {n : Nat} {bytes : Bytes} (hp : s.point = .reading n) (hlen : bytes.length ≤ n) :
    Step s (.read (.ok bytes)) (s.afterRead n (.ok bytes))
  | readFailed {n : Nat} (e : Errno) (hp : s.point = .reading n) :
    Step s (.read (.error e)) (s.afterRead n (.error e))
  | returned {result : Except Errno Bytes} (hp : s.point = .returning result) :
    Step s (.returned result) { s with point := .idle }

-- How a terminal answers the calls that are made within a call of the endpoint. Each of them takes its entry
-- of the plan.
inductive Answers (m : MasterSide) : Action → MasterSide → Prop where
  | call (n : Nat) : Answers m (.call n) m
  | poll {wake : Wake} (hplan : m.pollPlan.next.1 = none) (hw : m.stop.wakeOf m.readable = some wake) :
    Answers m (.poll (.ok wake)) { m with pollPlan := m.pollPlan.next.2 }
  | pollFailed {e : Errno} (hplan : m.pollPlan.next.1 = some e) :
    Answers m (.poll (.error e)) { m with pollPlan := m.pollPlan.next.2 }
  -- Only a terminal that has been hung up answers with no bytes.
  | read {n : Nat} (hn : 0 < n) (hplan : m.readPlan.next.1 = none) (hr : m.readable = true) :
    Answers m (.read (.ok (m.waiting.take n)))
      { m with waiting := m.waiting.drop n, readPlan := m.readPlan.next.2 }
  | readFailed {e : Errno} (hplan : m.readPlan.next.1 = some e) :
    Answers m (.read (.error e)) { m with readPlan := m.readPlan.next.2 }

-- Where one call of the endpoint ends.
def State.afterResult (n : Nat) (o : SessionOutput) : ReadResult → State
  | .bytes bytes => { ofOutput o with point := .returning (.ok bytes) }
  | .failed e => { ofOutput o with point := .returning (.error e) }
  | .blocked => { ofOutput o with point := .polling n }

-- What is done with an endpoint, and at the other side of its terminal. A read that is blocked is made again.
inductive Use where
  | read (n : Nat) (result : ReadResult)
  | halt
  | output (bytes : Bytes)
  | hangUp

namespace Use

def result? : Use → Option (Except Errno Bytes)
  | .read _ (.bytes bytes) => some (.ok bytes)
  | .read _ (.failed e) => some (.error e)
  | _ => none

def bytesReturned : Use → Bytes
  | .read _ (.bytes bytes) => bytes
  | _ => []

def bytesGiven : Use → Bytes
  | .output bytes => bytes
  | _ => []

end Use

-- An endpoint with the buffer of the call that waits in it.
structure InUse where
  output : SessionOutput
  blocked : Option Nat := none

namespace InUse

def opened (mode : MouseMode) (m : MasterSide) : InUse :=
  ⟨.ofMaster mode m, none⟩

def afterRead (n : Nat) (o : SessionOutput) : ReadResult → InUse
  | .blocked => ⟨o, some n⟩
  | .bytes _ | .failed _ => ⟨o, none⟩

def withMaster (u : InUse) (m : MasterSide) : InUse :=
  { u with output := { u.output with master := m } }

inductive Step (u : InUse) : Use → InUse → Prop where
  | read {n : Nat} {result : ReadResult} {o : SessionOutput} (hn : 0 < n) (hb : ∀ k ∈ u.blocked, k = n)
    (h : u.output.read n = (result, o)) : Step u (.read n result) (afterRead n o result)
  | halt : Step u .halt { u with output := u.output.halt }
  | output (bytes : Bytes) (h : u.output.master.hungUp = false) :
    Step u (.output bytes)
      (u.withMaster { u.output.master with waiting := u.output.master.waiting ++ bytes })
  | hangUp : Step u .hangUp (u.withMaster { u.output.master with hungUp := true })

end InUse

-- Where an endpoint stands between two uses.
def State.ofUse (u : InUse) : State :=
  { ofOutput u.output with point := u.blocked.elim .idle .polling }

end TermBridge.OutputCalls
