import TermBridge.Forward.Output

namespace TermBridge

-- What a sink takes of the bytes that it is offered.
def WriteReply.taken (offered : Bytes) : WriteReply → Bytes
  | .takeAll => offered
  | .takeUpTo n => offered.take n
  | .fail _ => []

-- Writing is given up for a failure, and for a write that takes nothing. Interrupted writes are made again.
def WriteReply.givesUp : WriteReply → Bool
  | .takeAll => false
  | .takeUpTo n => n == 0
  | .fail kind => kind != .interrupted

namespace ReadReply

def bytes : ReadReply → Bytes
  | .chunk bytes => bytes
  | .fail _ => []

-- Whether the worker reads again after this one.
def goesOn : ReadReply → Bool
  | .chunk bytes => !bytes.isEmpty
  | .fail kind => kind == .interrupted

-- All that can be read up to the end of the source, or up to a failure that ends the reading.
def delivered (source : List ReadReply) : Bytes :=
  (source.takeWhile goesOn).flatMap bytes

end ReadReply

namespace SourceItem

def bytes : SourceItem → Bytes
  | .data bytes => bytes
  | .fail _ => []

def goesOn : SourceItem → Bool
  | .data bytes => !bytes.isEmpty
  | .fail kind => kind == .interrupted

def delivered (source : List SourceItem) : Bytes :=
  (source.takeWhile goesOn).flatMap bytes

end SourceItem

namespace Sink

def nextWrite (s : Sink) : WriteReply :=
  s.writePlan.headD .takeAll

def nextFlush (s : Sink) : Option FailureKind :=
  s.flushPlan.headD none

def write (s : Sink) (offered : Bytes) : Sink :=
  { (s.offer offered).take (s.nextWrite.taken offered) with writePlan := s.writePlan.tail }

end Sink

namespace OutputWorker

inductive Call where
  | read (reply : ReadReply)
  | write (offered : Bytes) (reply : WriteReply)
  | flush (failure : Option FailureKind)
  deriving DecidableEq, Repr

namespace Call

def isRead : Call → Bool
  | .read _ => true
  | _ => false

def isWrite : Call → Bool
  | .write _ _ => true
  | _ => false

def isFlush : Call → Bool
  | .flush _ => true
  | _ => false

-- What a read has brought, if it has brought anything.
def chunk? : Call → Option Bytes
  | .read (.chunk (b :: bytes)) => some (b :: bytes)
  | _ => none

-- What the sink was offered, and what it has taken.

def offered? : Call → Option Bytes
  | .write offered _ => some offered
  | _ => none

def taken : Call → Bytes
  | .write offered reply => reply.taken offered
  | _ => []

-- A write or a flush that the sink lets down.
def fails : Call → Bool
  | .read _ => false
  | .write _ reply => reply.givesUp
  | .flush failure => failure.isSome

def ends : Call → Bool
  | .read reply => !reply.goesOn
  | call => call.fails

end Call

-- The chunks that have been read, in order, and the bytes that the sink has taken.

def chunksRead (calls : List Call) : List Bytes :=
  calls.filterMap Call.chunk?

def bytesTaken (calls : List Call) : Bytes :=
  calls.flatMap Call.taken

-- The chunk that was read last has been written but for what is left of it.
def Remains (past : List Call) (left : Bytes) : Prop :=
  ∃ before chunk writes, past = before ++ .read (.chunk chunk) :: writes ∧
    (∀ call ∈ writes, call.isWrite = true) ∧ chunk.length ≤ bufferSize ∧
    bytesTaken writes ++ left = chunk

-- Where the worker stands between two calls.
inductive Point where
  | reading
  | writing (left : Bytes)
  | flushing
  | ended
  deriving DecidableEq, Repr

namespace Point

def afterRead : ReadReply → Point
  | .chunk [] => .ended
  | .chunk (b :: bytes) => .writing (b :: bytes)
  | .fail .interrupted => .reading
  | .fail _ => .ended

-- With nothing left to write the chunk is flushed.
def ofUnwritten : Bytes → Point
  | [] => .flushing
  | b :: bytes => .writing (b :: bytes)

def afterWrite (offered : Bytes) (reply : WriteReply) : Point :=
  if reply.givesUp then .ended else ofUnwritten (offered.drop (reply.taken offered).length)

def afterFlush : Option FailureKind → Point
  | none => .reading
  | some _ => .ended

end Point

-- Reads behind the last reply of the source find its end.
structure State where
  source : List ReadReply
  sink : Sink
  point : Point := .reading
  deriving DecidableEq, Repr

inductive Step (s : State) : Call → State → Prop where
  | read (hp : s.point = .reading) :
    Step s (.read (s.source.headD (.chunk [])))
      { s with source := s.source.tail, point := .afterRead (s.source.headD (.chunk [])) }
  | write {left : Bytes} (hp : s.point = .writing left) :
    Step s (.write left s.sink.nextWrite)
      { s with sink := s.sink.write left, point := .afterWrite left s.sink.nextWrite }
  | flush (hp : s.point = .flushing) :
    Step s (.flush s.sink.nextFlush)
      { s with sink := s.sink.flush.1, point := .afterFlush s.sink.nextFlush }

inductive Run : State → List Call → State → Prop where
  | nil (s : State) : Run s [] s
  | cons {s s' s'' : State} {call : Call} {rest : List Call}
    (first : Step s call s') (others : Run s' rest s'') : Run s (call :: rest) s''

end OutputWorker

end TermBridge
