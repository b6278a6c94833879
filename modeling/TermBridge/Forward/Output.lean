import TermBridge.Forward.Completion
import TermBridge.Forward.Sink

namespace TermBridge

-- What a source has to give: data, of which a read returns at most one buffer, or a failure.
inductive SourceItem where
  | data (bytes : Bytes)
  | fail (kind : FailureKind)
  deriving DecidableEq, Repr

-- What one read returns. No bytes at all mean the end of the source.
inductive ReadReply where
  | chunk (bytes : Bytes)
  | fail (kind : FailureKind)
  deriving DecidableEq, Repr

namespace SourceItem

def chunksOf (bytes : Bytes) : List Bytes :=
  if _h : bytes.length ≤ bufferSize then [bytes]
  else bytes.take bufferSize :: chunksOf (bytes.drop bufferSize)
termination_by bytes.length
decreasing_by
  simp only [List.length_drop]
  simp only [bufferSize] at _h ⊢
  omega

def replies : SourceItem → List ReadReply
  | .data bytes => (chunksOf bytes).map .chunk
  | .fail kind => [.fail kind]

end SourceItem

namespace OutputWorker

structure Outcome where
  sink : Sink
  -- The number of read calls.
  reads : Nat
  deriving DecidableEq, Repr

def Outcome.afterRead (o : Outcome) : Outcome :=
  { o with reads := o.reads + 1 }

def forward (sink : Sink) : List ReadReply → Outcome
  | [] => ⟨sink, 1⟩
  | .chunk [] :: _ => ⟨sink, 1⟩
  | .chunk (b :: bytes) :: rest =>
    match sink.put (b :: bytes) with
    | (sink, true) => (forward sink rest).afterRead
    | (sink, false) => ⟨sink, 1⟩
  | .fail .interrupted :: rest => (forward sink rest).afterRead
  | .fail _ :: _ => ⟨sink, 1⟩

-- A whole run: the forwarding, and the completion that follows it.
def run (sink : Sink) (source : List SourceItem) (completion : Completion) : Outcome × Completion :=
  (forward sink (source.flatMap SourceItem.replies), completion.finish)

end OutputWorker

end TermBridge
