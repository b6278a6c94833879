import TermBridge.Forward.Input
import TermBridge.Proofs.Forward.Sink
import TermBridge.Proofs.Wakeup.Operations

namespace TermBridge.InputWorker

variable {given : Bytes} {w polled next : InputWorker} {answer : Waited Wake} {outcome : Forwarded}

-- What a poll and a read with its forwarding do.

theorem poll_frame (hp : w.poll = (answer, polled)) :
    ∃ polling plan, polled = { w with polling := polling, pollPlan := plan } := by
  have hpolled : polled = w.poll.2 := by rw [hp]
  rw [hpolled, poll]
  split
  · split
    · exact ⟨false, w.pollPlan, rfl⟩
    · exact ⟨w.polling, w.pollPlan, rfl⟩
  · split
    next plan hwait => exact ⟨true, plan, rfl⟩
    next result plan hne hwait => exact ⟨w.polling, plan, rfl⟩

-- A poll that does not fail tells what there is to wake it.
theorem poll_answer (hp : w.poll = (answer, polled)) :
    (∃ e, answer = .failed e) ∨
      answer = (w.stop.wakeOf w.source.readable).elim .blocked .ready := by
  have hanswer : answer = w.poll.1 := by rw [hp]
  rw [hanswer, poll]
  split
  · right
    cases hw : w.stop.wakeOf w.source.readable <;> rfl
  · have hwaited : (∃ e, (w.stop.waitOrReadable w.source.readable w.pollPlan).1 = .failed e) ∨
        (w.stop.waitOrReadable w.source.readable w.pollPlan).1 =
          (w.stop.wakeOf w.source.readable).elim .blocked .ready := by
      rw [WakeupSignal.waitOrReadable, Plan.poll_fst]
      cases w.pollPlan.settled.next.1 with
      | some e => exact .inl ⟨e, rfl⟩
      | none => exact .inr rfl
    split
    next plan hwait =>
      rw [hwait] at hwaited
      exact hwaited
    next result plan hne hwait =>
      rw [hwait] at hwaited
      exact hwaited

theorem wakeOf_of_blocked (hp : w.poll = (.blocked, polled)) :
    w.stop.wakeOf w.source.readable = none := by
  rcases poll_answer hp with ⟨e, he⟩ | hanswer
  · cases he
  · cases hw : w.stop.wakeOf w.source.readable with
    | none => rfl
    | some wake =>
      rw [hw] at hanswer
      cases hanswer

theorem wakeOf_of_ready {wake : Wake} (hp : w.poll = (.ready wake, polled)) :
    w.stop.wakeOf w.source.readable = some wake := by
  rcases poll_answer hp with ⟨e, he⟩ | hanswer
  · cases he
  · cases hw : w.stop.wakeOf w.source.readable with
    | none =>
      rw [hw] at hanswer
      cases hanswer
    | some found =>
      rw [hw] at hanswer
      cases hanswer
      rfl

theorem forwardWaiting_frame (hf : w.forwardWaiting = (outcome, next)) :
    ∃ sink waiting, next = { w with sink := sink, source := { w.source with waiting := waiting } } := by
  have hnext : next = w.forwardWaiting.2 := by rw [hf]
  rw [hnext, forwardWaiting]
  split
  · exact ⟨w.sink, w.source.waiting, rfl⟩
  · split
    · exact ⟨w.sink, w.source.waiting, rfl⟩
    · exact ⟨_, _, rfl⟩

theorem forwardOnce_frame (hf : w.forwardOnce = (outcome, next)) :
    ∃ sink waiting plan, next =
      { w with sink := sink, source := { w.source with waiting := waiting }, readPlan := plan } := by
  rw [forwardOnce] at hf
  split at hf
  next e plan hread => exact ⟨w.sink, w.source.waiting, plan, (Prod.mk.inj hf).2.symm⟩
  next plan hread =>
    obtain ⟨sink, waiting, rfl⟩ := forwardWaiting_frame hf
    exact ⟨sink, waiting, plan, rfl⟩

-- What is forwarded is the first part of what waits. What is left waits still, unless the worker ends.
theorem forwardWaiting_accounts (hf : w.forwardWaiting = (outcome, next)) :
    ∃ first rest, w.source.waiting = first ++ rest ∧ next.sink.taken = w.sink.taken ++ first ∧
      (outcome = .again → next.source.waiting = rest) ∧
      (outcome = .ended .endOfSource → rest = []) := by
  rw [forwardWaiting] at hf
  split at hf
  next e hbroken =>
    cases hf
    exact ⟨[], w.source.waiting, rfl, by simp, by simp, by simp⟩
  next hbroken =>
    split at hf
    next hempty =>
      cases hf
      have hnil : w.source.waiting = [] := List.isEmpty_iff.mp hempty
      exact ⟨[], [], by simp [hnil], by simp, by simp, by simp⟩
    next hwaiting =>
      obtain ⟨first, unwritten, hchunk, htaken, hall⟩ :=
        w.sink.taken_put (w.source.waiting.take bufferSize)
      cases hf
      refine ⟨first, unwritten ++ w.source.waiting.drop bufferSize, ?_, htaken, ?_, ?_⟩
      · rw [← List.append_assoc, ← hchunk, List.take_append_drop]
      · cases hput : (w.sink.put (w.source.waiting.take bufferSize)).2 with
        | true => simp [hall hput]
        | false => simp
      · cases hput : (w.sink.put (w.source.waiting.take bufferSize)).2 <;> simp

theorem forwardOnce_accounts (hf : w.forwardOnce = (outcome, next)) :
    ∃ first rest, w.source.waiting = first ++ rest ∧ next.sink.taken = w.sink.taken ++ first ∧
      (outcome = .again → next.source.waiting = rest) ∧
      (outcome = .ended .endOfSource → rest = []) := by
  rw [forwardOnce] at hf
  split at hf
  next e plan hread =>
    cases hf
    refine ⟨[], w.source.waiting, rfl, by simp, by simp, ?_⟩
    by_cases he : e = Errno.interrupted <;> simp [he]
  next plan hread => exact forwardWaiting_accounts (w := { w with readPlan := plan }) hf

-- What holds of a worker whose source has been given some bytes.
structure Invariant (given : Bytes) (w : InputWorker) : Prop where
  taken : w.sink.taken <+: given
  waiting : w.completion.done = false → w.sink.taken ++ w.source.waiting = given
  complete : w.ending = some .endOfSource → w.sink.taken = given
  ended : w.ending.isSome = w.completion.done
  -- the main loop has been woken if the worker is complete, and only then
  told : w.completion.wakeup.pending = w.completion.done
  audible : w.completion.wakeup.readable = w.completion.done
  stop : w.stop.Sound

-- The plans, the poll under way and the end of the source do not matter.
theorem Invariant.congr (hi : Invariant given w) (hsink : next.sink = w.sink)
    (hwaiting : next.source.waiting = w.source.waiting) (hending : next.ending = w.ending)
    (hcompletion : next.completion = w.completion) (hstop : next.stop.Sound) :
    Invariant given next where
  taken := hsink ▸ hi.taken
  waiting h := by
    rw [hsink, hwaiting]
    exact hi.waiting (hcompletion ▸ h)
  complete h := hsink ▸ hi.complete (hending ▸ h)
  ended := by
    rw [hending, hcompletion]
    exact hi.ended
  told := hcompletion ▸ hi.told
  audible := hcompletion ▸ hi.audible
  stop := hstop

theorem Invariant.sound (hi : Invariant given w) : w.completion.wakeup.Sound := by
  intro h
  rw [hi.audible, ← hi.told]
  exact h

theorem Invariant.ending_eq_none (hi : Invariant given w) (hd : w.completion.done = false) :
    w.ending = none := by
  rw [← Option.isNone_iff_eq_none, ← Option.not_isSome, hi.ended, hd]
  rfl

theorem Invariant.poll (hi : Invariant given w) (hp : w.poll = (answer, polled)) :
    Invariant given polled := by
  obtain ⟨polling, plan, rfl⟩ := poll_frame hp
  exact hi.congr rfl rfl rfl rfl hi.stop

theorem invariant_finish {why : InputEnding} (htaken : w.sink.taken <+: given)
    (hall : why = .endOfSource → w.sink.taken = given) (hwakeup : w.completion.wakeup.Sound)
    (hstop : w.stop.Sound) : Invariant given (w.finish why) where
  taken := htaken
  waiting h := Bool.noConfusion h
  complete h := hall (Option.some.inj h)
  ended := rfl
  told := WakeupSignal.pending_set _
  audible := WakeupSignal.readable_set hwakeup
  stop := hstop

-- What a read takes from the source arrives in the sink, or the worker ends.
theorem Invariant.forwardOnce (hi : Invariant given w) (hd : w.completion.done = false)
    (hf : w.forwardOnce = (outcome, next)) :
    (outcome = .again → Invariant given next) ∧
      ∀ why, outcome = .ended why → Invariant given (next.finish why) := by
  obtain ⟨first, rest, hwaiting, htaken, hagain, hall⟩ := forwardOnce_accounts hf
  have hgiven : next.sink.taken ++ rest = given := by
    rw [htaken, List.append_assoc, ← hwaiting]
    exact hi.waiting hd
  have hfront : next.sink.taken <+: given := ⟨rest, hgiven⟩
  have hending := hi.ending_eq_none hd
  obtain ⟨sink, source, plan, rfl⟩ := forwardOnce_frame hf
  refine ⟨fun h => ?_, fun why h => ?_⟩
  · refine ⟨hfront, fun _ => ?_, fun hend => ?_, hi.ended, hi.told, hi.audible, hi.stop⟩
    · rw [hagain h]
      exact hgiven
    · simp [hending] at hend
  · refine invariant_finish hfront ?_ hi.sound hi.stop
    rintro rfl
    rw [hall h, List.append_nil] at hgiven
    exact hgiven

theorem Invariant.advance (hi : Invariant given w) : Invariant given w.advance := by
  fun_induction InputWorker.advance w with
  | case1 w hd => exact hi
  | case2 w hd polled hp => exact hi.poll hp
  | case3 w hd e polled hp | case4 w hd polled hp =>
    have hpolled := hi.poll hp
    exact invariant_finish hpolled.taken (by simp) hpolled.sound hpolled.stop
  | case5 w hd polled hp why ended hf =>
    have hpolled := hi.poll hp
    obtain ⟨polling, plan, rfl⟩ := poll_frame hp
    exact (hpolled.forwardOnce (by simpa using hd) hf).2 why rfl
  | case6 w hd polled hp next hf ih =>
    have hpolled := hi.poll hp
    obtain ⟨polling, plan, rfl⟩ := poll_frame hp
    exact ih ((hpolled.forwardOnce (by simpa using hd) hf).1 rfl)

theorem advance_of_done (h : w.completion.done = true) : w.advance = w := by
  rw [InputWorker.advance, if_pos h]

theorem stop_advance (w : InputWorker) : w.advance.stop = w.stop := by
  fun_induction InputWorker.advance w with
  | case1 w hd => rfl
  | case2 w hd polled hp | case3 w hd e polled hp | case4 w hd polled hp =>
    obtain ⟨polling, plan, rfl⟩ := poll_frame hp
    rfl
  | case5 w hd polled hp why ended hf =>
    obtain ⟨polling, plan, rfl⟩ := poll_frame hp
    obtain ⟨sink, source, plan, rfl⟩ := forwardOnce_frame hf
    rfl
  | case6 w hd polled hp next hf ih =>
    obtain ⟨polling, plan, rfl⟩ := poll_frame hp
    obtain ⟨sink, source, plan, rfl⟩ := forwardOnce_frame hf
    exact ih

-- A worker that has not ended waits with nothing left to forward.
theorem waiting_advance (h : w.advance.completion.done = false) : w.advance.source.waiting = [] := by
  fun_induction InputWorker.advance w with
  | case1 w hd =>
    rw [hd] at h
    exact Bool.noConfusion h
  | case2 w hd polled hp =>
    have hempty := (WakeupSignal.wakeOf_eq_none_iff.mp (wakeOf_of_blocked hp)).2
    obtain ⟨polling, plan, rfl⟩ := poll_frame hp
    simp only [InputSource.readable, Bool.or_eq_false_iff, Bool.not_eq_false'] at hempty
    exact List.isEmpty_iff.mp hempty.1
  | case3 w hd e polled hp | case4 w hd polled hp => exact Bool.noConfusion h
  | case5 w hd polled hp why ended hf => exact Bool.noConfusion h
  | case6 w hd polled hp next hf ih => exact ih h

theorem done_advance_of_readable (h : w.stop.readable = true) : w.advance.completion.done = true := by
  have hwake : w.stop.wakeOf w.source.readable = some .signalled := by
    simp [WakeupSignal.wakeOf, h]
  rw [InputWorker.advance]
  split
  next hd => exact hd
  next hd =>
    split
    next polled hp =>
      rw [wakeOf_of_blocked hp] at hwake
      cases hwake
    next e polled hp => rfl
    next polled hp => rfl
    next polled hp =>
      rw [wakeOf_of_ready hp] at hwake
      cases hwake

-- What one operation of the owner preserves, and with it a whole sequence of them.

theorem Invariant.put (hi : Invariant given w) (chunk : Bytes) (hd : w.completion.done = false) :
    Invariant (given ++ chunk)
      { w with source := { w.source with waiting := w.source.waiting ++ chunk } } where
  taken := hi.taken.trans (List.prefix_append given chunk)
  waiting _ := by rw [← hi.waiting hd, List.append_assoc]
  complete h := by simp [hi.ending_eq_none hd] at h
  ended := hi.ended
  told := hi.told
  audible := hi.audible
  stop := hi.stop

theorem Invariant.perform (hi : Invariant given w) (action : Action) :
    Invariant (given ++ w.accepted action) (w.perform action) := by
  cases action with
  | write chunk =>
    cases hr : (w.completion.done || w.source.ended) with
    | true => simpa [InputWorker.perform, write, accepted, hr] using hi
    | false =>
      have hd : w.completion.done = false := (Bool.or_eq_false_iff.mp hr).1
      simpa [InputWorker.perform, write, accepted, hr] using (hi.put chunk hd).advance
  | close =>
    rw [accepted, List.append_nil]
    have hclosed : Invariant given { w with source := { w.source with ended := true } } :=
      hi.congr rfl rfl rfl rfl hi.stop
    exact hclosed.advance
  | wait =>
    rw [accepted, List.append_nil]
    exact hi
  | shutdown =>
    rw [accepted, List.append_nil]
    have hstopped : Invariant given { w with stop := w.stop.set } :=
      hi.congr rfl rfl rfl rfl (WakeupSignal.sound_set hi.stop)
    exact hstopped.advance

theorem Invariant.performAll (hi : Invariant given w) (actions : List Action) :
    Invariant (given ++ w.acceptedAll actions) (w.performAll actions) := by
  induction actions generalizing given w with
  | nil => simpa [acceptedAll, InputWorker.performAll] using hi
  | cons action rest ih =>
    rw [acceptedAll, ← List.append_assoc]
    exact ih (hi.perform action)

-- A worker that goes on has nothing left that it could forward.
def Idle (w : InputWorker) : Prop :=
  w.completion.done = false → w.source.waiting = []

theorem Idle.perform (hw : w.Idle) (action : Action) : (w.perform action).Idle := by
  cases action with
  | write chunk =>
    rw [InputWorker.perform, write]
    split
    · exact hw
    · exact waiting_advance
  | wait => exact hw
  | close | shutdown => exact waiting_advance

theorem Idle.performAll (hw : w.Idle) (actions : List Action) : (w.performAll actions).Idle := by
  induction actions generalizing w with
  | nil => exact hw
  | cons action rest ih => exact ih (hw.perform action)

theorem frozen_perform (h : w.completion.done = true) (action : Action) :
    (w.perform action).sink = w.sink ∧ (w.perform action).completion = w.completion := by
  cases action with
  | write chunk => simp [perform, write, h]
  | close => simp [perform, close, advance_of_done, h]
  | wait => exact ⟨rfl, rfl⟩
  | shutdown => simp [perform, shutdown, advance_of_done, h]

theorem frozen_performAll (h : w.completion.done = true) (actions : List Action) :
    (w.performAll actions).sink = w.sink ∧ (w.performAll actions).completion = w.completion := by
  induction actions generalizing w with
  | nil => exact ⟨rfl, rfl⟩
  | cons action rest ih =>
    obtain ⟨hsink, hcompletion⟩ := frozen_perform h action
    obtain ⟨hsinkRest, hcompletionRest⟩ := ih (w := w.perform action) (by rw [hcompletion, h])
    exact ⟨hsinkRest.trans hsink, hcompletionRest.trans hcompletion⟩

theorem done_shutdown (hs : w.stop.Sound) : w.shutdown.completion.done = true :=
  done_advance_of_readable (WakeupSignal.readable_set hs)

theorem shutdown_shutdown (hs : w.stop.Sound) : w.shutdown.shutdown = w.shutdown := by
  have hstop : w.shutdown.stop.set = w.shutdown.stop := by
    rw [shutdown, stop_advance]
    exact WakeupSignal.set_of_pending (WakeupSignal.pending_set w.stop)
  have hagain : w.shutdown.shutdown = advance { w.shutdown with stop := w.shutdown.stop.set } := rfl
  rw [hagain, hstop]
  exact advance_of_done (done_shutdown hs)

theorem invariant_start (source : InputSource) (writePlan : List WriteReply)
    (flushPlan : List (Option FailureKind)) (pollPlan readPlan : Plan) :
    Invariant source.waiting
      { source := source, sink := { writePlan := writePlan, flushPlan := flushPlan },
        pollPlan := pollPlan, readPlan := readPlan } where
  taken := List.nil_prefix
  waiting _ := rfl
  complete h := by simp at h
  ended := rfl
  told := rfl
  audible := rfl
  stop := WakeupSignal.sound_fresh

-- Whatever the owner does, and whatever poll, read, write and flush answer: what the sink has taken is the
-- first part of what was put into the source, and all of it unless the worker was ended before its source.
theorem forwards_at_every_moment (source : InputSource) (writePlan : List WriteReply)
    (flushPlan : List (Option FailureKind)) (pollPlan readPlan : Plan) (actions : List Action) :
    let begun := start
      { source := source, sink := { writePlan := writePlan, flushPlan := flushPlan },
        pollPlan := pollPlan, readPlan := readPlan }
    let w := begun.performAll actions
    let given := source.waiting ++ begun.acceptedAll actions
    w.sink.taken <+: given ∧
      (w.ending = some .endOfSource → w.sink.taken = given) ∧
      (w.completion.done = false → w.sink.taken = given) ∧
      w.ending.isSome = w.completion.done ∧
      w.completion.wakeup.pending = w.completion.done ∧
      w.completion.wakeup.readable = w.completion.done ∧
      (w.completion.done = true → ∀ more, (w.performAll more).sink = w.sink ∧
        (w.performAll more).completion = w.completion) ∧
      w.shutdown.completion.done = true ∧ w.shutdown.shutdown = w.shutdown := by
  intro begun w given
  have hbegun : Invariant source.waiting begun :=
    (invariant_start source writePlan flushPlan pollPlan readPlan).advance
  have hi : Invariant given w := hbegun.performAll actions
  have hidle : w.Idle := Idle.performAll waiting_advance actions
  refine ⟨hi.taken, hi.complete, fun hd => ?_, hi.ended, hi.told, hi.audible, ?_,
    done_shutdown hi.stop, shutdown_shutdown hi.stop⟩
  · rw [← hi.waiting hd, hidle hd, List.append_nil]
  · exact fun hd more => frozen_performAll hd more

-- The first read is interrupted and the second write is short; the source ends before the shutdown.
example :
    let begun := start
      { source := .pipe, sink := { writePlan := [.takeAll, .takeUpTo 1] },
        readPlan := [Errno.interrupted] }
    let w := begun.performAll [.write [1, 2], .write [3, 4], .close, .shutdown]
    w.sink.taken = [1, 2, 3, 4] ∧ w.ending = some .endOfSource ∧ w.completion.done = true := by
  decide +kernel

end TermBridge.InputWorker
