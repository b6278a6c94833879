import TermBridge.Proofs.Forward.Calls
import TermBridge.Proofs.Wakeup.Operations

namespace TermBridge

namespace SourceItem

theorem flatten_chunksOf (bytes : Bytes) : (chunksOf bytes).flatten = bytes := by
  fun_induction chunksOf bytes with
  | case1 bytes h => simp
  | case2 bytes h ih => rw [List.flatten_cons, ih, List.take_append_drop]

theorem length_of_mem_chunksOf (bytes : Bytes) : ∀ chunk ∈ chunksOf bytes, chunk.length ≤ bufferSize := by
  fun_induction chunksOf bytes with
  | case1 bytes h => simpa using h
  | case2 bytes h ih =>
    intro chunk hchunk
    rcases List.mem_cons.mp hchunk with rfl | hrest
    · exact List.length_take_le _ _
    · exact ih chunk hrest

theorem ne_nil_of_mem_chunksOf (bytes : Bytes) (hb : bytes ≠ []) : ∀ chunk ∈ chunksOf bytes, chunk ≠ [] := by
  fun_induction chunksOf bytes with
  | case1 bytes h => simpa using hb
  | case2 bytes h ih =>
    have hlt : bufferSize < bytes.length := Nat.lt_of_not_le h
    intro chunk hchunk
    rcases List.mem_cons.mp hchunk with rfl | hrest
    · simpa [bufferSize] using hb
    · refine ih ?_ chunk hrest
      simpa using hlt

theorem length_of_mem_replies (item : SourceItem) :
    ∀ reply ∈ item.replies, reply.bytes.length ≤ bufferSize := by
  intro reply hreply
  cases item with
  | data bytes =>
    obtain ⟨chunk, hchunk, rfl⟩ := List.mem_map.mp hreply
    exact length_of_mem_chunksOf bytes chunk hchunk
  | fail kind =>
    rw [List.mem_singleton.mp hreply]
    exact Nat.zero_le _

theorem chunksOf_nil : chunksOf [] = [[]] := by
  simp [chunksOf]

-- An item that the reading goes past is read to its last byte.
theorem replies_of_goesOn {item : SourceItem} (h : item.goesOn = true) :
    (∀ reply ∈ item.replies, reply.goesOn = true) ∧ item.replies.flatMap ReadReply.bytes = item.bytes := by
  cases item with
  | data bytes =>
    have hb : bytes ≠ [] := by simpa [goesOn] using h
    refine ⟨?_, ?_⟩
    · intro reply hreply
      obtain ⟨chunk, hchunk, rfl⟩ := List.mem_map.mp hreply
      simpa [ReadReply.goesOn] using ne_nil_of_mem_chunksOf bytes hb chunk hchunk
    · simp [replies, List.flatMap_map, ReadReply.bytes, SourceItem.bytes, flatten_chunksOf]
  | fail kind =>
    refine ⟨?_, rfl⟩
    intro reply hreply
    rw [List.mem_singleton.mp hreply]
    exact h

theorem replies_of_not_goesOn {item : SourceItem} (h : item.goesOn = false) :
    ∃ reply, item.replies = [reply] ∧ reply.goesOn = false := by
  cases item with
  | data bytes =>
    have hb : bytes = [] := by simpa [goesOn] using h
    exact ⟨.chunk [], by simp [replies, hb, chunksOf_nil], rfl⟩
  | fail kind => exact ⟨.fail kind, rfl, h⟩

end SourceItem

namespace ReadReply

theorem delivered_cons (reply : ReadReply) (rest : List ReadReply) :
    delivered (reply :: rest) = if reply.goesOn then reply.bytes ++ delivered rest else [] := by
  cases hg : reply.goesOn <;> simp [delivered, hg]

theorem delivered_append_of_goesOn {first : List ReadReply} (h : ∀ reply ∈ first, reply.goesOn = true)
    (rest : List ReadReply) : delivered (first ++ rest) = first.flatMap bytes ++ delivered rest := by
  rw [delivered, List.takeWhile_append_of_pos h, List.flatMap_append]
  rfl

-- Cutting the items into buffers changes nothing in what is delivered.
theorem delivered_replies (source : List SourceItem) :
    delivered (source.flatMap SourceItem.replies) = SourceItem.delivered source := by
  induction source with
  | nil => rfl
  | cons item rest ih =>
    rw [List.flatMap_cons, SourceItem.delivered]
    cases hg : item.goesOn with
    | true =>
      obtain ⟨hreplies, hbytes⟩ := SourceItem.replies_of_goesOn hg
      rw [delivered_append_of_goesOn hreplies, hbytes, ih, List.takeWhile_cons_of_pos hg, List.flatMap_cons]
      rfl
    | false =>
      obtain ⟨reply, hreplies, hreply⟩ := SourceItem.replies_of_not_goesOn hg
      simp [hreplies, delivered_cons, hreply, hg]

end ReadReply

namespace OutputWorker

namespace Point

-- What is left of the chunk that is being written.
def left : Point → Bytes
  | .writing left => left
  | _ => []

-- How many chunks have been read and not been flushed.
def unflushed : Point → Nat
  | .writing _ | .flushing => 1
  | .reading | .ended => 0

theorem left_ofUnwritten (bytes : Bytes) : (ofUnwritten bytes).left = bytes := by
  cases bytes <;> rfl

theorem unflushed_ofUnwritten (bytes : Bytes) : (ofUnwritten bytes).unflushed = 1 := by
  cases bytes <;> rfl

theorem ofUnwritten_eq_writing {bytes left : Bytes} (h : ofUnwritten bytes = .writing left) :
    bytes = left ∧ left ≠ [] := by
  cases bytes with
  | nil => exact Point.noConfusion h
  | cons b bytes => cases h; simp

end Point

variable {source : List ReadReply} {past future calls : List Call} {call : Call} {s s' final : State}

theorem chunksRead_concat (past : List Call) (call : Call) :
    chunksRead (past ++ [call]) = chunksRead past ++ call.chunk?.toList := by
  rw [chunksRead, List.filterMap_append, chunksRead]
  cases hc : call.chunk? <;> simp [hc]

theorem bytesTaken_concat (past : List Call) (call : Call) :
    bytesTaken (past ++ [call]) = bytesTaken past ++ call.taken := by
  simp [bytesTaken]

theorem Remains.write {left : Bytes} (h : Remains past left) (reply : WriteReply) :
    Remains (past ++ [.write left reply]) (left.drop (reply.taken left).length) := by
  obtain ⟨before, chunk, writes, rfl, hwrites, hsize, hchunk⟩ := h
  refine ⟨before, chunk, writes ++ [.write left reply], by simp, ?_, hsize, ?_⟩
  · intro call hcall
    rcases List.mem_append.mp hcall with hold | hnew
    · exact hwrites call hold
    · rw [List.mem_singleton.mp hnew]
      rfl
  · rw [bytesTaken_concat, Call.taken, List.append_assoc, WriteReply.taken_append_drop, hchunk]

-- What holds of a worker between two calls as long as it runs.
structure Invariant (source : List ReadReply) (past : List Call) (s : State) : Prop where
  small : ∀ reply ∈ s.source, reply.bytes.length ≤ bufferSize
  read : (chunksRead past).flatten ++ ReadReply.delivered s.source = ReadReply.delivered source
  taken : bytesTaken past ++ s.point.left = (chunksRead past).flatten
  flushed : past.countP Call.isFlush + s.point.unflushed = (chunksRead past).length
  current : ∀ left, s.point = .writing left → left ≠ [] ∧ Remains past left

theorem invariant_start (h : ∀ reply ∈ source, reply.bytes.length ≤ bufferSize) (sink : Sink) :
    Invariant source [] ⟨source, sink, .reading⟩ where
  small := h
  read := rfl
  taken := rfl
  flushed := rfl
  current _ h := Point.noConfusion h

theorem Invariant.step_read (hi : Invariant source past s) (hp : s.point = .reading)
    (hg : (s.source.headD (.chunk [])).goesOn = true) :
    Invariant source (past ++ [.read (s.source.headD (.chunk []))])
      { s with source := s.source.tail, point := .afterRead (s.source.headD (.chunk [])) } := by
  obtain ⟨hsmall, hread, htaken, hflushed, -⟩ := hi
  rw [hp] at htaken hflushed
  cases hs : s.source with
  | nil =>
    rw [hs] at hg
    exact Bool.noConfusion hg
  | cons reply rest =>
    rw [hs, List.headD_cons] at hg
    rw [hs, ReadReply.delivered_cons, if_pos hg] at hread
    rw [hs] at hsmall
    rw [List.headD_cons, List.tail_cons]
    have hsmallRest := fun r hr => hsmall r (List.mem_cons_of_mem reply hr)
    cases reply with
    | chunk bytes =>
      cases bytes with
      | nil => exact Bool.noConfusion hg
      | cons b bytes =>
        refine ⟨hsmallRest, ?_, ?_, ?_, ?_⟩
        · simpa [chunksRead_concat, Call.chunk?, ReadReply.bytes] using hread
        · simpa [chunksRead_concat, bytesTaken_concat, Call.chunk?, Call.taken, Point.afterRead,
            Point.left] using htaken
        · simpa [chunksRead_concat, Call.chunk?, Call.isFlush, Point.afterRead,
            Point.unflushed] using hflushed
        · intro left hleft
          cases hleft
          have hsize := hsmall _ List.mem_cons_self
          exact ⟨List.cons_ne_nil b bytes, past, b :: bytes, [], rfl, by simp, hsize, rfl⟩
    | fail kind =>
      have hkind : kind = .interrupted := by simpa [ReadReply.goesOn] using hg
      subst hkind
      refine ⟨hsmallRest, ?_, ?_, ?_, fun _ h => Point.noConfusion h⟩
      · simpa [chunksRead_concat, Call.chunk?, ReadReply.bytes] using hread
      · simpa [chunksRead_concat, bytesTaken_concat, Call.chunk?, Call.taken, Point.afterRead] using htaken
      · simpa [chunksRead_concat, Call.chunk?, Call.isFlush, Point.afterRead] using hflushed

theorem Invariant.step_write (hi : Invariant source past s) {left : Bytes}
    (hp : s.point = .writing left) (hg : s.sink.nextWrite.givesUp = false) :
    Invariant source (past ++ [.write left s.sink.nextWrite])
      { s with sink := s.sink.write left, point := .afterWrite left s.sink.nextWrite } := by
  obtain ⟨hsmall, hread, htaken, hflushed, hcurrent⟩ := hi
  obtain ⟨-, hremains⟩ := hcurrent left hp
  rw [hp] at htaken hflushed
  have hpoint : Point.afterWrite left s.sink.nextWrite =
      .ofUnwritten (left.drop (s.sink.nextWrite.taken left).length) := by
    simp [Point.afterWrite, hg]
  rw [hpoint]
  refine ⟨hsmall, ?_, ?_, ?_, ?_⟩
  · simpa [chunksRead_concat, Call.chunk?] using hread
  · rw [Point.left_ofUnwritten, bytesTaken_concat, Call.taken, List.append_assoc,
      WriteReply.taken_append_drop]
    simpa [chunksRead_concat, Call.chunk?, Point.left] using htaken
  · rw [Point.unflushed_ofUnwritten]
    simpa [chunksRead_concat, Call.chunk?, Call.isFlush, Point.unflushed] using hflushed
  · intro rest hrest
    obtain ⟨rfl, hne⟩ := Point.ofUnwritten_eq_writing hrest
    exact ⟨hne, hremains.write _⟩

theorem Invariant.step_flush (hi : Invariant source past s) (hp : s.point = .flushing)
    (hf : s.sink.nextFlush = none) :
    Invariant source (past ++ [.flush s.sink.nextFlush])
      { s with sink := s.sink.flush.1, point := .afterFlush s.sink.nextFlush } := by
  obtain ⟨hsmall, hread, htaken, hflushed, -⟩ := hi
  rw [hp] at htaken hflushed
  rw [hf]
  refine ⟨hsmall, ?_, ?_, ?_, fun _ h => Point.noConfusion h⟩
  · simpa [chunksRead_concat, Call.chunk?] using hread
  · simpa [chunksRead_concat, bytesTaken_concat, Call.chunk?, Call.taken, Point.afterFlush,
      Point.left] using htaken
  · simpa [chunksRead_concat, Call.chunk?, Call.isFlush, Point.afterFlush,
      Point.unflushed] using hflushed

theorem Invariant.step (hi : Invariant source past s) (h : Step s call s') (hc : call.ends = false) :
    Invariant source (past ++ [call]) s' := by
  cases h with
  | read hp => exact hi.step_read hp (by simpa [Call.ends] using hc)
  | write hp => exact hi.step_write hp hc
  | flush hp => exact hi.step_flush hp (by simpa [Call.ends, Call.fails] using hc)

-- A run whose end is not the worker's has no call that ends it.
theorem Run.invariant (h : Run s calls final) (hlive : final.point ≠ .ended)
    (hi : Invariant source past s) : Invariant source (past ++ calls) final := by
  induction h generalizing past with
  | nil s => simpa using hi
  | @cons s next final call rest first others ih =>
    have hgoesOn : call.ends = false := by
      rw [← Bool.not_eq_true, first.ends_iff]
      intro hended
      rw [(others.eq_nil_of_ended hended).2] at hlive
      exact hlive hended
    simpa using ih hlive (hi.step first hgoesOn)

theorem Invariant.taken_prefix (hi : Invariant source past s) :
    bytesTaken past <+: ReadReply.delivered source := by
  rw [← hi.read, ← hi.taken, List.append_assoc]
  exact List.prefix_append _ _

theorem Call.taken_of_ends (h : call.ends = true) : call.taken = [] := by
  cases call with
  | write offered reply => exact WriteReply.taken_of_givesUp h offered
  | read reply | flush failure => rfl

theorem Call.chunk?_of_ends (h : call.ends = true) : call.chunk? = none := by
  cases call with
  | read reply =>
    cases reply with
    | chunk bytes =>
      cases bytes with
      | nil => rfl
      | cons b bytes => exact Bool.noConfusion h
    | fail kind => rfl
  | write offered reply | flush failure => rfl

-- Unless the sink lets it down, the worker comes to the end of what its source delivers.
theorem Invariant.complete (hi : Invariant source past s) (h : Step s call s')
    (he : call.ends = true) (hf : call.fails = false) :
    bytesTaken (past ++ [call]) = ReadReply.delivered source ∧
      (past ++ [call]).countP Call.isFlush = (chunksRead (past ++ [call])).length := by
  rw [bytesTaken_concat, Call.taken_of_ends he, chunksRead_concat, Call.chunk?_of_ends he]
  cases h with
  | read hp =>
    have hend : ReadReply.delivered s.source = [] := by
      cases hs : s.source with
      | nil => rfl
      | cons reply rest =>
        rw [hs] at he
        rw [ReadReply.delivered_cons, if_neg (by simpa [Call.ends] using he)]
    have hread := hi.read
    have htaken := hi.taken
    have hflushed := hi.flushed
    rw [hend, List.append_nil] at hread
    rw [hp, hread] at htaken
    rw [hp] at hflushed
    exact ⟨htaken, by simpa [Call.isFlush, Point.unflushed] using hflushed⟩
  | write hp | flush hp =>
    simp [Call.ends, hf] at he

section Whole

-- Runs from the first read to the end of the worker.

variable {items : List SourceItem} {sink : Sink}

theorem Run.invariant_before
    (h : Run ⟨items.flatMap SourceItem.replies, sink, .reading⟩ (past ++ call :: future) final) :
    ∃ before after, Invariant (items.flatMap SourceItem.replies) past before ∧
      Step before call after := by
  have hsmall : ∀ reply ∈ items.flatMap SourceItem.replies, reply.bytes.length ≤ bufferSize := by
    intro reply hreply
    obtain ⟨item, -, hitem⟩ := List.mem_flatMap.mp hreply
    exact item.length_of_mem_replies reply hitem
  obtain ⟨before, after, hpast, hstep, -⟩ := h.exists_at
  exact ⟨before, after, hpast.invariant hstep.not_ended (invariant_start hsmall sink), hstep⟩

theorem Run.taken_prefix
    (h : Run ⟨items.flatMap SourceItem.replies, sink, .reading⟩ (past ++ future) final)
    (hended : final.point = .ended) : bytesTaken past <+: SourceItem.delivered items := by
  rw [← ReadReply.delivered_replies]
  cases future with
  | cons call rest =>
    obtain ⟨before, after, hbefore, -⟩ := h.invariant_before
    exact hbefore.taken_prefix
  | nil =>
    rw [List.append_nil] at h
    rcases List.eq_nil_or_concat past with rfl | ⟨init, call, rfl⟩
    · exact List.nil_prefix
    · -- the last call takes nothing
      rw [List.concat_eq_append] at h ⊢
      obtain ⟨before, after, hbefore, -⟩ := h.invariant_before
      have hend := (h.ends_iff hended).mpr rfl
      rw [bytesTaken_concat, Call.taken_of_ends hend, List.append_nil]
      exact hbefore.taken_prefix

theorem Run.complete (h : Run ⟨items.flatMap SourceItem.replies, sink, .reading⟩ calls final)
    (hended : final.point = .ended) (hnone : ∀ call ∈ calls, call.fails = false) :
    bytesTaken calls = SourceItem.delivered items ∧
      calls.countP Call.isFlush = (chunksRead calls).length := by
  rw [← ReadReply.delivered_replies]
  rcases List.eq_nil_or_concat calls with rfl | ⟨init, call, rfl⟩
  · cases h
    exact Point.noConfusion hended
  · rw [List.concat_eq_append] at h hnone ⊢
    obtain ⟨before, after, hbefore, hstep⟩ := h.invariant_before
    have hend := (h.ends_iff hended).mpr rfl
    exact hbefore.complete hstep hend (hnone call (by simp))

end Whole

-- What the calls of a whole run have to do with its source.
structure Faithful (source : List SourceItem) (calls : List Call) : Prop where
  -- At every moment the sink has the first bytes of all that the source delivers.
  inOrder : ∀ past future, calls = past ++ future → bytesTaken past <+: SourceItem.delivered source
  offered : ∀ past offered reply future, calls = past ++ .write offered reply :: future →
    offered ≠ [] ∧ Remains past offered
  -- Before the worker reads again it has written the chunk it has, and flushed it once.
  settled : ∀ past reply future, calls = past ++ .read reply :: future →
    bytesTaken past = (chunksRead past).flatten ∧
      past.countP Call.isFlush = (chunksRead past).length
  complete : (∀ call ∈ calls, call.fails = false) →
    bytesTaken calls = SourceItem.delivered source ∧
      calls.countP Call.isFlush = (chunksRead calls).length
  -- The worker ends with a call that ends it, and makes no other after it.
  last : ∀ past call future, calls = past ++ call :: future → (call.ends = true ↔ future = [])

theorem Run.faithful {source : List SourceItem} {sink : Sink}
    (h : Run ⟨source.flatMap SourceItem.replies, sink, .reading⟩ calls final)
    (hended : final.point = .ended) : Faithful source calls where
  inOrder := by
    rintro past future rfl
    exact h.taken_prefix hended
  offered := by
    rintro past offered reply future rfl
    obtain ⟨before, after, hbefore, hstep⟩ := h.invariant_before
    cases hstep with
    | write hp => exact hbefore.current offered hp
  settled := by
    rintro past reply future rfl
    obtain ⟨before, after, hbefore, hstep⟩ := h.invariant_before
    have htaken := hbefore.taken
    have hflushed := hbefore.flushed
    cases hstep with
    | read hp =>
      rw [hp] at htaken hflushed
      exact ⟨by simpa [Point.left] using htaken, hflushed⟩
  complete := h.complete hended
  last := by
    rintro past call future rfl
    exact h.ends_iff hended

-- Whatever the source and the sink answer, the worker's calls are a whole run; its sink has taken what the
-- calls give it, and the main loop is told of the end.
theorem forwards_faithfully (sink : Sink) (source : List SourceItem) (completion : Completion) :
    let ran := run sink source completion
    ∃ calls final, Run ⟨source.flatMap SourceItem.replies, sink, .reading⟩ calls final ∧
      final.point = .ended ∧ ran.1 = ⟨final.sink, calls.countP Call.isRead⟩ ∧
      Faithful source calls ∧
      ran.1.sink.taken = sink.taken ++ bytesTaken calls ∧
      ran.1.sink.offered = sink.offered ++ (calls.filterMap Call.offered?).map List.length ∧
      ran.1.sink.flushes = sink.flushes + calls.countP Call.isFlush ∧
      ran.2.done = true ∧ ran.2.wakeup.pending = true ∧
      (completion.wakeup.Sound → ran.2.wakeup.readable = true) := by
  intro ran
  obtain ⟨calls, final, hrun, hended, hforward⟩ := run_forward sink (source.flatMap SourceItem.replies)
  have hran : ran.1 = ⟨final.sink, calls.countP Call.isRead⟩ := hforward
  obtain ⟨htaken, hoffered, hflushes⟩ := hrun.sink_records
  refine ⟨calls, final, hrun, hended, hran, hrun.faithful hended, ?_⟩
  rw [hran]
  exact ⟨htaken, hoffered, hflushes, rfl, WakeupSignal.pending_set _, WakeupSignal.readable_set⟩

-- A short write, an interrupted one and an interrupted read between them change nothing in what arrives.
example :
    let sink := (run { writePlan := [.takeUpTo 2, .fail .interrupted] }
      [.data [1, 2, 3], .fail .interrupted, .data [4], .data [], .data [5]] {}).1.sink
    sink.taken = [1, 2, 3, 4] ∧ sink.offered = [3, 1, 1, 1] ∧ sink.flushes = 2 := by
  decide +kernel

end OutputWorker

end TermBridge
