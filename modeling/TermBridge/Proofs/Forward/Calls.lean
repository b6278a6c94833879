import TermBridge.Proofs.Forward.Sink

namespace TermBridge.OutputWorker

variable {s s' s'' final : State} {call : Call} {calls past future : List Call}

-- A call ends the worker if the worker makes no other after it.

theorem Point.afterRead_eq_ended_iff (reply : ReadReply) :
    afterRead reply = .ended ↔ reply.goesOn = false := by
  cases reply with
  | chunk bytes => cases bytes <;> simp [afterRead, ReadReply.goesOn]
  | fail kind => cases kind <;> simp [afterRead, ReadReply.goesOn]

theorem Point.ofUnwritten_ne_ended (left : Bytes) : ofUnwritten left ≠ .ended := by
  cases left <;> simp [ofUnwritten]

theorem Point.afterWrite_eq_ended_iff (offered : Bytes) (reply : WriteReply) :
    afterWrite offered reply = .ended ↔ reply.givesUp = true := by
  cases hg : reply.givesUp <;> simp [afterWrite, hg, ofUnwritten_ne_ended]

theorem Point.afterFlush_eq_ended_iff (failure : Option FailureKind) :
    afterFlush failure = .ended ↔ failure.isSome = true := by
  cases failure <;> simp [afterFlush]

namespace Step

theorem ends_iff (h : Step s call s') : call.ends = true ↔ s'.point = .ended := by
  cases h with
  | read hp => simp [Call.ends, Point.afterRead_eq_ended_iff]
  | write hp => simp [Call.ends, Call.fails, Point.afterWrite_eq_ended_iff]
  | flush hp => simp [Call.ends, Call.fails, Point.afterFlush_eq_ended_iff]

theorem sink_records (h : Step s call s') :
    s'.sink.taken = s.sink.taken ++ call.taken ∧
      s'.sink.offered = s.sink.offered ++ call.offered?.toList.map List.length ∧
      s'.sink.flushes = s.sink.flushes + if call.isFlush then 1 else 0 := by
  cases h with
  | read hp => simp [Call.taken, Call.offered?, Call.isFlush]
  | write hp => simp [Call.taken, Call.offered?, Call.isFlush, Sink.write, Sink.take, Sink.offer]
  | flush hp => simp [Call.taken, Call.offered?, Call.isFlush, Sink.flush_eq]

theorem not_ended (h : Step s call s') : s.point ≠ .ended := by
  cases h with
  | read hp | write hp | flush hp => simp [hp]

end Step

namespace Run

theorem append (h : Run s past s') (h' : Run s' future s'') : Run s (past ++ future) s'' := by
  induction h with
  | nil s => exact h'
  | cons first _ ih => exact .cons first (ih h')

theorem exists_at (h : Run s (past ++ call :: future) final) :
    ∃ before after, Run s past before ∧ Step before call after ∧ Run after future final := by
  induction past generalizing s with
  | nil =>
    cases h with
    | cons first others => exact ⟨_, _, .nil _, first, others⟩
  | cons c rest ih =>
    cases h with
    | cons first others =>
      obtain ⟨before, after, hpast, hstep, hfuture⟩ := ih others
      exact ⟨before, after, .cons first hpast, hstep, hfuture⟩

theorem eq_nil_of_ended (h : Run s calls final) (hp : s.point = .ended) : calls = [] ∧ final = s := by
  cases h with
  | nil s => exact ⟨rfl, rfl⟩
  | cons first others => exact False.elim (first.not_ended hp)

-- In a whole run the call that ends the worker is the last one, and it is the only one.
theorem ends_iff (h : Run s (past ++ call :: future) final) (hended : final.point = .ended) :
    call.ends = true ↔ future = [] := by
  obtain ⟨before, after, -, hstep, hfuture⟩ := h.exists_at
  rw [hstep.ends_iff]
  refine ⟨fun hend => (hfuture.eq_nil_of_ended hend).1, ?_⟩
  rintro rfl
  cases hfuture
  exact hended

theorem sink_records (h : Run s calls final) :
    final.sink.taken = s.sink.taken ++ bytesTaken calls ∧
      final.sink.offered = s.sink.offered ++ (calls.filterMap Call.offered?).map List.length ∧
      final.sink.flushes = s.sink.flushes + calls.countP Call.isFlush := by
  induction h with
  | nil s => simp [bytesTaken]
  | @cons s s' s'' call rest first _ ih =>
    obtain ⟨htaken, hoffered, hflushes⟩ := first.sink_records
    obtain ⟨htakenRest, hofferedRest, hflushesRest⟩ := ih
    refine ⟨?_, ?_, ?_⟩
    · rw [htakenRest, htaken]
      simp [bytesTaken]
    · rw [hofferedRest, hoffered]
      cases ho : call.offered? <;> simp [ho]
    · rw [hflushesRest, hflushes, List.countP_cons]
      omega

end Run

-- The forwarding as a run of single calls.

theorem run_writeAll (source : List ReadReply) (sink : Sink) (chunk : Bytes) :
    ∃ calls, calls.countP Call.isRead = 0 ∧
      Run ⟨source, sink, .ofUnwritten chunk⟩ calls
        ⟨source, (sink.writeAll chunk).1,
          if (sink.writeAll chunk).2 then .flushing else .ended⟩ := by
  induction sink, chunk using Sink.writeAll_induction with
  | nil sink => exact ⟨[], rfl, by rw [Sink.writeAll_nil]; exact .nil _⟩
  | givesUp sink chunk hc hg =>
    obtain ⟨b, bytes, rfl⟩ := List.exists_cons_of_ne_nil hc
    refine ⟨[.write (b :: bytes) sink.nextWrite], rfl, .cons (.write rfl) ?_⟩
    simp only [Sink.writeAll_of_ne_nil sink hc, Point.afterWrite, hg, if_true]
    exact .nil _
  | goesOn sink chunk hc hg ih =>
    obtain ⟨b, bytes, rfl⟩ := List.exists_cons_of_ne_nil hc
    obtain ⟨calls, hreads, hrun⟩ := ih
    refine ⟨.write (b :: bytes) sink.nextWrite :: calls, hreads, .cons (.write rfl) ?_⟩
    simpa [Sink.writeAll_of_ne_nil sink hc, Point.afterWrite, hg] using hrun

theorem afterFlush_nextFlush (sink : Sink) :
    Point.afterFlush sink.nextFlush = if sink.flush.2 then .reading else .ended := by
  rw [Sink.flush_eq]
  cases sink.nextFlush <;> rfl

theorem run_put (source : List ReadReply) (sink : Sink) (chunk : Bytes) :
    ∃ calls, calls.countP Call.isRead = 0 ∧
      Run ⟨source, sink, .ofUnwritten chunk⟩ calls
        ⟨source, (sink.put chunk).1, if (sink.put chunk).2 then .reading else .ended⟩ := by
  obtain ⟨calls, hreads, hrun⟩ := run_writeAll source sink chunk
  unfold Sink.put
  split
  next written hw =>
    simp only [hw, if_true] at hrun
    have hflush : Step ⟨source, written, .flushing⟩ (.flush written.nextFlush)
        ⟨source, written.flush.1, .afterFlush written.nextFlush⟩ := .flush rfl
    rw [afterFlush_nextFlush] at hflush
    exact ⟨calls ++ [.flush written.nextFlush], by simp [hreads, Call.isRead],
      hrun.append (.cons hflush (.nil _))⟩
  next written hw =>
    rw [hw] at hrun
    exact ⟨calls, hreads, hrun⟩

theorem run_forward (sink : Sink) (source : List ReadReply) :
    ∃ calls final, Run ⟨source, sink, .reading⟩ calls final ∧ final.point = .ended ∧
      forward sink source = ⟨final.sink, calls.countP Call.isRead⟩ := by
  fun_induction forward sink source with
  | case1 sink => exact ⟨_, _, .cons (.read rfl) (.nil _), rfl, rfl⟩
  | case2 sink rest => exact ⟨_, _, .cons (.read rfl) (.nil _), rfl, rfl⟩
  | case3 sink b bytes rest written hput ih =>
    obtain ⟨calls, final, hrun, hended, hforward⟩ := ih
    obtain ⟨puts, hreads, hputs⟩ := run_put rest sink (b :: bytes)
    simp only [hput, if_true] at hputs
    refine ⟨.read (.chunk (b :: bytes)) :: (puts ++ calls), final, .cons (.read rfl) (hputs.append hrun),
      hended, ?_⟩
    simp [hforward, Outcome.afterRead, List.countP_cons, hreads, Call.isRead]
  | case4 sink b bytes rest written hput =>
    obtain ⟨puts, hreads, hputs⟩ := run_put rest sink (b :: bytes)
    simp only [hput, Bool.false_eq_true, if_false] at hputs
    refine ⟨.read (.chunk (b :: bytes)) :: puts, _, .cons (.read rfl) hputs, rfl, ?_⟩
    simp [List.countP_cons, hreads, Call.isRead]
  | case5 sink rest ih =>
    obtain ⟨calls, final, hrun, hended, hforward⟩ := ih
    refine ⟨.read (.fail .interrupted) :: calls, final, .cons (.read rfl) hrun, hended, ?_⟩
    simp [hforward, Outcome.afterRead, List.countP_cons, Call.isRead]
  | case6 sink kind rest hkind =>
    have hended : Point.afterRead (.fail kind) = .ended := by
      cases kind <;> first | rfl | exact False.elim (hkind rfl)
    exact ⟨[.read (.fail kind)], _, .cons (.read rfl) (.nil _), hended, rfl⟩

end TermBridge.OutputWorker
