import TermBridge.Proofs.Forward.Answers

namespace TermBridge.InputCalls

variable {s s' final : State} {a : Action} {actions : List Action}

-- How often the worker still reads before it polls again.
def Point.readsDue : Point → Nat
  | .reading => 1
  | _ => 0

theorem Point.readsDue_afterRead (answer : Except Errno Bytes) : (afterRead answer).readsDue = 0 := by
  cases answer with
  | ok bytes => cases bytes <;> rfl
  | error e =>
    simp only [afterRead]
    split <;> rfl

theorem Point.readsDue_ofOutput (p : OutputWorker.Point) : (ofOutput p).readsDue = 0 := by
  cases p <;> rfl

theorem Point.left_afterRead (bytes : Bytes) : (afterRead (.ok bytes)).left = bytes := by
  cases bytes <;> rfl

theorem Point.left_ofUnwritten (unwritten : Bytes) : (ofOutput (.ofUnwritten unwritten)).left = unwritten := by
  cases unwritten <;> rfl

namespace Step

-- The stop signal

theorem requested (h : Step s a s') (hr : s.stop.Requested) : s'.stop.Requested := by
  cases h with
  | set hset => exact hset.requested hr
  | _ => exact hr

theorem told (h : Step s a s') (ht : s.stop.Told) : s'.stop.Told := by
  cases h with
  | set hset => exact hset.told ht
  | _ => exact ht

theorem poll_of_requested {wake : Wake} (h : Step s (.poll (.ok wake)) s') (hr : s.stop.Requested) :
    wake = .signalled ∧ s'.point = .ended .stopped := by
  cases h with
  | poll hp hw =>
    have hwake : wake = .signalled := (WakeupSignal.wakeOf_eq_signalled_iff hw).mpr hr
    subst hwake
    exact ⟨rfl, rfl⟩

theorem of_ended {why : InputEnding} (h : Step s a s') (hp : s.point = .ended why) :
    a.isSet = true ∧ s'.point = .ended why := by
  cases h with
  | set hset => exact ⟨rfl, hp⟩
  | poll hq hw | pollFailed e hq | read hq hlen | readFailed e hq | write reply hq | flush failure hq =>
    rw [hq] at hp
    cases hp

-- Reads that are made, and reads that are still due.
theorem reads_le (h : Step s a s') (hr : s.stop.Requested) :
    a.isRead.toNat + s'.point.readsDue ≤ s.point.readsDue := by
  cases h with
  | set hset => simp [Action.isRead]
  | @poll sourceReadable wake hp hw =>
    have hpoll : Step s (.poll (.ok wake)) { s with point := .afterPoll (.ok wake) } := .poll hp hw
    have hended := (hpoll.poll_of_requested hr).2
    simp only at hended
    simp [hended, Action.isRead, Point.readsDue]
  | pollFailed e hp =>
    have hdue : (Point.afterPoll (.error e)).readsDue = 0 := by
      simp only [Point.afterPoll]
      split <;> rfl
    simp [hdue, Action.isRead]
  | read hp | readFailed e hp =>
    have hdue : s.point.readsDue = 1 := by
      rw [hp]
      rfl
    simp [hdue, Action.isRead, Point.readsDue_afterRead]
  | write reply hp => simp [Action.isRead, Point.readsDue_ofOutput]
  | flush failure hp => simp [Action.isRead, Point.readsDue_ofOutput]

-- The bytes

theorem length_bytesRead_le (h : Step s a s') : a.bytesRead.length ≤ a.isRead.toNat * bufferSize := by
  cases h with
  | read hp hlen => simpa [Action.bytesRead, Action.isRead] using hlen
  | _ => simp [Action.bytesRead]

-- What has been read is in the sink or is left to be written, unless the sink lets the worker down.
theorem accounts (h : Step s a s') :
    a.bytesTaken ++ s'.point.left = s.point.left ++ a.bytesRead ∨
      (a.bytesTaken = [] ∧ s'.point = .ended .sinkFailed) := by
  cases h with
  | set hset => exact .inl (by simp [Action.bytesTaken, Action.bytesRead])
  | @poll sourceReadable wake hp hw =>
    left
    cases wake <;> simp [Action.bytesTaken, Action.bytesRead, hp, Point.afterPoll, Point.left]
  | pollFailed e hp =>
    left
    by_cases he : e = Errno.interrupted <;>
      simp [Action.bytesTaken, Action.bytesRead, hp, Point.afterPoll, he, Point.left]
  | read hp hlen =>
    have hleft : s.point.left = [] := by
      rw [hp]
      rfl
    exact .inl (by simp [Action.bytesTaken, Action.bytesRead, hleft, Point.left_afterRead])
  | readFailed e hp =>
    left
    by_cases he : e = Errno.interrupted <;>
      simp [Action.bytesTaken, Action.bytesRead, hp, Point.afterRead, he, Point.left]
  | @write left reply hp =>
    have hleft : s.point.left = left := by
      rw [hp]
      rfl
    cases hg : reply.givesUp with
    | true =>
      right
      exact ⟨WriteReply.taken_of_givesUp hg left, by simp [OutputWorker.Point.afterWrite, hg, Point.ofOutput]⟩
    | false =>
      left
      simp [Action.bytesTaken, Action.bytesRead, hleft, OutputWorker.Point.afterWrite, hg,
        Point.left_ofUnwritten, WriteReply.taken_append_drop]
  | flush failure hp =>
    left
    cases failure <;>
      simp [Action.bytesTaken, Action.bytesRead, hp, OutputWorker.Point.afterFlush, Point.ofOutput,
        Point.left]

-- The worker reads when it has written all that it has read before.
theorem left_of_isRead (h : Step s a s') (hr : a.isRead = true) : s.point.left = [] := by
  cases h with
  | read hp | readFailed e hp =>
    rw [hp]
    rfl
  | _ => exact Bool.noConfusion hr

theorem length_left_le (h : Step s a s') (hl : s.point.left.length ≤ bufferSize) :
    s'.point.left.length ≤ bufferSize := by
  rcases h.accounts with haccount | ⟨-, hended⟩
  · have hlength := congrArg List.length haccount
    have hbytes := h.length_bytesRead_le
    simp only [List.length_append] at hlength
    cases hr : a.isRead with
    | true =>
      simp only [h.left_of_isRead hr, hr, Bool.toNat_true, List.length_nil] at hlength hbytes
      omega
    | false =>
      simp only [hr, Bool.toNat_false] at hbytes
      omega
  · simp [hended, Point.left]

end Step

-- A whole run

theorem isSet_of_ended {why : InputEnding} (h : Trace Step s actions final) (hp : s.point = .ended why) :
    (∀ a ∈ actions, a.isSet = true) ∧ final.point = .ended why := by
  induction h with
  | nil s => exact ⟨by simp, hp⟩
  | cons first _ ih =>
    obtain ⟨hset, hp'⟩ := first.of_ended hp
    obtain ⟨hrest, hfinal⟩ := ih hp'
    exact ⟨List.forall_mem_cons.mpr ⟨hset, hrest⟩, hfinal⟩

theorem reads_of_isSet (h : ∀ a ∈ actions, a.isSet = true) : actions.countP Action.isRead = 0 := by
  rw [List.countP_eq_zero]
  intro a ha
  have hset := h a ha
  cases a <;> simp_all [Action.isSet, Action.isRead]

theorem allTaken_of_isSet (h : ∀ a ∈ actions, a.isSet = true) : allTaken actions = [] := by
  rw [allTaken, List.flatMap_eq_nil_iff]
  intro a ha
  have hset := h a ha
  cases a <;> simp_all [Action.isSet, Action.bytesTaken]

theorem reads_le (h : Trace Step s actions final) (hr : s.stop.Requested) :
    actions.countP Action.isRead + final.point.readsDue ≤ s.point.readsDue := by
  induction h with
  | nil s => simp
  | @cons s s' s'' a rest first _ ih =>
    have hfirst := first.reads_le hr
    have hrest := ih (first.requested hr)
    rw [List.countP_cons]
    cases hread : a.isRead with
    | true =>
      simp only [hread, Bool.toNat_true, if_true] at hfirst ⊢
      omega
    | false =>
      simp only [hread, Bool.toNat_false, Bool.false_eq_true, if_false] at hfirst ⊢
      omega

theorem length_allRead_le (h : Trace Step s actions final) :
    (allRead actions).length ≤ actions.countP Action.isRead * bufferSize := by
  induction h with
  | nil s => simp [allRead]
  | @cons s s' s'' a rest first _ ih =>
    have hfirst := first.length_bytesRead_le
    rw [List.countP_cons]
    simp only [allRead, List.flatMap_cons, List.length_append] at ih ⊢
    cases hread : a.isRead with
    | true =>
      simp only [hread, Bool.toNat_true, if_true, Nat.add_mul] at hfirst ⊢
      omega
    | false =>
      simp only [hread, Bool.toNat_false, Bool.false_eq_true, if_false, Nat.zero_mul,
        Nat.add_zero] at hfirst ⊢
      omega

-- The sink takes what the worker has in hand and what it reads, in this order.
theorem allTaken_part (h : Trace Step s actions final) :
    allTaken actions ++ final.point.left <+: s.point.left ++ allRead actions := by
  induction h with
  | nil s => simp [allTaken, allRead]
  | @cons s s' s'' a rest first others ih =>
    simp only [allTaken, allRead, List.flatMap_cons] at ih ⊢
    rcases first.accounts with haccount | ⟨htaken, hended⟩
    · rw [← List.append_assoc, ← haccount, List.append_assoc, List.append_assoc]
      exact (List.prefix_append_right_inj _).mpr ih
    · obtain ⟨hsets, hfinal⟩ := isSet_of_ended others hended
      have hnone := allTaken_of_isSet hsets
      rw [allTaken] at hnone
      simp [htaken, hnone, hfinal, Point.left]

-- What is left for a worker whose stop signal has its byte.
structure Stops (s : State) (actions : List Action) (final : State) : Prop where
  reads : actions.countP Action.isRead ≤ 1
  -- It has one chunk at most, the one in hand or the one that it still reads.
  chunk : s.point.left = [] ∨ actions.countP Action.isRead = 0
  size : (s.point.left ++ allRead actions).length ≤ bufferSize
  forwarded : allTaken actions <+: s.point.left ++ allRead actions
  idle : s.point = .polling → actions.countP Action.isRead = 0 ∧ allTaken actions = []
  signalled : ∀ past wake future, actions = past ++ .poll (.ok wake) :: future →
    wake = .signalled ∧ final.point = .ended .stopped ∧ ∀ a ∈ future, a.isSet = true
  -- No poll blocks.
  wakes : final.point = .polling →
    Step final (.poll (.ok .signalled)) { final with point := .ended .stopped }

theorem stops_of_requested (h : Trace Step s actions final) (hr : s.stop.Requested)
    (hl : s.point.left.length ≤ bufferSize) : Stops s actions final := by
  have hreads := reads_le h hr
  have hread := length_allRead_le h
  have htaken : allTaken actions <+: s.point.left ++ allRead actions :=
    (List.prefix_append _ _).trans (allTaken_part h)
  -- no read is due unless the worker's last poll has found the source
  have hnone : s.point.readsDue = 0 →
      actions.countP Action.isRead = 0 ∧ allRead actions = [] := by
    intro hdue
    have hzero : actions.countP Action.isRead = 0 := by omega
    rw [hzero, Nat.zero_mul] at hread
    exact ⟨hzero, List.eq_nil_of_length_eq_zero (by omega)⟩
  have hpoint : s.point.readsDue ≤ 1 ∧ (s.point.left = [] ∨ s.point.readsDue = 0) := by
    cases s.point <;> simp [Point.readsDue, Point.left]
  refine ⟨by omega, hpoint.2.imp_right fun hdue => (hnone hdue).1, ?_, htaken, ?_, ?_, ?_⟩
  · rcases hpoint.2 with hleft | hdue
    · have hsize : actions.countP Action.isRead * bufferSize ≤ 1 * bufferSize :=
        Nat.mul_le_mul_right bufferSize (by omega)
      rw [hleft, List.nil_append]
      omega
    · rw [(hnone hdue).2, List.append_nil]
      exact hl
  · intro hp
    have hdue : s.point.readsDue = 0 := by rw [hp]; rfl
    have hleft : s.point.left = [] := by rw [hp]; rfl
    rw [hleft, (hnone hdue).2] at htaken
    exact ⟨(hnone hdue).1, List.prefix_nil.mp htaken⟩
  · rintro past wake future rfl
    obtain ⟨before, after, hpast, hpoll, hfuture⟩ := h.exists_at
    obtain ⟨hwake, hended⟩ := hpoll.poll_of_requested (hpast.invariant (·.stop.Requested) Step.requested hr)
    obtain ⟨hsets, hfinal⟩ := isSet_of_ended hfuture hended
    exact ⟨hwake, hfinal, hsets⟩
  · intro hp
    have hfinal : final.stop.Requested := h.invariant (·.stop.Requested) Step.requested hr
    have hw : final.stop.signal.wakeOf true = some .signalled := if_pos hfinal
    exact .poll hp hw

theorem point_of_isSet (h : Trace Step s actions final) (hsets : ∀ a ∈ actions, a.isSet = true) :
    final.point = s.point := by
  induction h with
  | nil s => rfl
  | cons first _ ih =>
    obtain ⟨hset, hrest⟩ := List.forall_mem_cons.mp hsets
    rw [ih hrest]
    cases first with
    | set hstep => rfl
    | _ => exact Bool.noConfusion hset

-- However the setting of its stop signal and the calls of a worker are interleaved: a call of `set` that
-- has returned has left its byte, and from that byte on one chunk is the most that the worker still has to
-- read and to forward. The worker that runs between the operations of its owner makes such calls, and its
-- source, its sink and its stop signal answer them.
theorem stop_ends_forwarding :
    (∀ before s, Trace Step {} before s → s.stop.Told) ∧
    (∀ before after s final, Trace Step {} before s → Trace Step s after final → s.stop.Requested →
      Stops s after final ∧
        ((∀ a ∈ before, a.isSet = true) → (before ++ after).countP Action.isRead = 0)) ∧
    (∀ w : InputWorker, w.ending.isSome = w.completion.done →
      w.source.broken ≠ some Errno.interrupted →
      (∃ calls, Trace Step (.ofWorker w) calls (.ofWorker w.advance) ∧
        w.advance.sink.taken = w.sink.taken ++ allTaken calls ∧ Called w calls w.advance) ∧
      (∃ (halves : List Stopping.Half) (calls : List Action),
        Trace Step (.ofWorker w) (halves.map .set ++ calls) (.ofWorker w.shutdown) ∧
        w.shutdown.sink.taken = w.sink.taken ++ allTaken (halves.map .set ++ calls) ∧
        Called { w with stop := w.stop.set } calls w.shutdown) ∧
      (w.stop.readable = true → w.advance.source = w.source ∧ w.advance.sink = w.sink ∧
        (w.completion.done = false → (∀ e, w.poll.1 ≠ .failed e) → w.advance.ending = some .stopped))) := by
  refine ⟨fun before s h => ?_, fun before after s final hbefore hafter hr => ?_, fun w hended hsource => ?_⟩
  · exact h.invariant (·.stop.Told) Step.told Stopping.told_fresh
  · have hleft : s.point.left.length ≤ bufferSize :=
      hbefore.invariant (·.point.left.length ≤ bufferSize) Step.length_left_le (Nat.zero_le _)
    have hstops := stops_of_requested hafter hr hleft
    refine ⟨hstops, fun hsets => ?_⟩
    rw [List.countP_append, reads_of_isSet hsets, Nat.zero_add]
    exact (hstops.idle (point_of_isSet hbefore hsets)).1
  · obtain ⟨calls, hcalls⟩ := called_advance w hended hsource
    obtain ⟨halves, more, hset, hmore⟩ := called_shutdown w hended hsource
    refine ⟨⟨calls, hcalls.run, hcalls.answered.taken, hcalls⟩,
      ⟨halves, more, hset.append hmore.run, ?_, hmore⟩, advance_of_stop w⟩
    rw [allTaken_append, allTaken_of_isSet (by simp [Action.isSet]), List.nil_append]
    exact hmore.answered.taken

-- The byte falls between a poll that has found the source and the read behind it.
theorem stop_ends_forwarding_of_stale_poll :
    let told : Stopping := ⟨⟨true, 1⟩, false⟩
    let before := [.poll (.ok .readable), .set .swap, .set .write]
    let after := [.read (.ok [104, 105]), .write [104, 105] (.takeUpTo 1), .write [105] .takeAll,
      .flush none, .poll (.ok .signalled)]
    Trace Step {} before ⟨told, .reading⟩ ∧ Trace Step ⟨told, .reading⟩ after ⟨told, .ended .stopped⟩ ∧
      told.Requested ∧ Stops ⟨told, .reading⟩ after ⟨told, .ended .stopped⟩ := by
  intro told before after
  have hfound : WakeupSignal.fresh.wakeOf true = some .readable := rfl
  have htold : told.signal.wakeOf true = some .signalled := rfl
  have hbefore : Trace Step {} before ⟨told, .reading⟩ :=
    .cons (.poll rfl hfound) (.cons (.set (.swap rfl)) (.cons (.set (.write rfl)) (.nil _)))
  have hafter : Trace Step ⟨told, .reading⟩ after ⟨told, .ended .stopped⟩ :=
    .cons (.read rfl (by decide)) (.cons (.write _ rfl) (.cons (.write _ rfl) (.cons (.flush _ rfl)
      (.cons (.poll rfl htold) (.nil _)))))
  have hr : told.Requested := rfl
  exact ⟨hbefore, hafter, hr, (stop_ends_forwarding.2.1 before after _ _ hbefore hafter hr).1⟩

end TermBridge.InputCalls
