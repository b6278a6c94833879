import TermBridge.Forward.InputCalls
import TermBridge.Proofs.Forward.Calls
import TermBridge.Proofs.Forward.Input
import TermBridge.Proofs.Wakeup.Stopping
import TermBridge.Proofs.Wakeup.Watch

namespace TermBridge.InputCalls

variable {s s' : State} {w w' w'' next last : InputWorker} {a : Action} {calls : List Action}

theorem allRead_append (past future : List Action) :
    allRead (past ++ future) = allRead past ++ allRead future :=
  List.flatMap_append

theorem allTaken_append (past future : List Action) :
    allTaken (past ++ future) = allTaken past ++ allTaken future :=
  List.flatMap_append

-- What an answer goes back to: the stop signal, the plans, what is wrong with the source, or its end.
inductive Grounds (w : InputWorker) (drained : Prop) : Action → Prop where
  | signalled (h : w.stop.readable = true) : Grounds w drained (.poll (.ok .signalled))
  | found (h : w.stop.readable = false) : Grounds w drained (.poll (.ok .readable))
  | pollFailed {e : Errno} (h : e ∈ w.pollPlan) : Grounds w drained (.poll (.error e))
  | taken {b : UInt8} {bytes : Bytes} : Grounds w drained (.read (.ok (b :: bytes)))
  | drained (h : drained) : Grounds w drained (.read (.ok []))
  | readFailed {e : Errno} (h : e ∈ w.readPlan) : Grounds w drained (.read (.error e))
  | broken {e : Errno} (h : w.source.broken = some e) : Grounds w drained (.read (.error e))
  | other {a : Action} (ha : a.isAnswered = false) : Grounds w drained a

-- What the calls have to do with the source, the sink and the stop signal. The bytes that they read are those
-- that leave the source, and the bytes that they write those that the sink gets.
structure Answered (w : InputWorker) (calls : List Action) (w' : InputWorker) : Prop where
  bytes : w.source.waiting = allRead calls ++ w'.source.waiting
  taken : w'.sink.taken = w.sink.taken ++ allTaken calls
  source : w'.source = { w.source with waiting := w'.source.waiting }
  stop : w'.stop = w.stop
  pollPlan : w'.pollPlan <:+ w.pollPlan
  readPlan : w'.readPlan <:+ w.readPlan
  grounds : ∀ a ∈ calls, Grounds w (w.source.ended = true ∧ w'.source.waiting = []) a

theorem Answered.nil (w : InputWorker) : Answered w [] w where
  bytes := rfl
  taken := (List.append_nil _).symm
  source := rfl
  stop := rfl
  pollPlan := List.suffix_rfl
  readPlan := List.suffix_rfl
  grounds := by simp

theorem Grounds.imp {drained drained' : Prop} (h : Grounds w' drained a) (hw : Answered w calls w')
    (hdrained : drained → drained') : Grounds w drained' a := by
  have hbroken : w'.source.broken = w.source.broken := by rw [hw.source]
  cases h with
  | signalled h => exact .signalled (hw.stop ▸ h)
  | found h => exact .found (hw.stop ▸ h)
  | pollFailed h => exact .pollFailed (hw.pollPlan.mem h)
  | taken => exact .taken
  | drained h => exact .drained (hdrained h)
  | readFailed h => exact .readFailed (hw.readPlan.mem h)
  | broken h => exact .broken (hbroken ▸ h)
  | other ha => exact .other ha

theorem Answered.append {past future : List Action} (h : Answered w past w') (h' : Answered w' future w'') :
    Answered w (past ++ future) w'' where
  bytes := by rw [h.bytes, h'.bytes, allRead_append, List.append_assoc]
  taken := by rw [h'.taken, h.taken, allTaken_append, List.append_assoc]
  source := by rw [h'.source, h.source]
  stop := h'.stop.trans h.stop
  pollPlan := h'.pollPlan.trans h.pollPlan
  readPlan := h'.readPlan.trans h.readPlan
  grounds := by
    intro a ha
    rcases List.mem_append.mp ha with hpast | hfuture
    · refine (h.grounds a hpast).imp (.nil w) fun ⟨hended, hnone⟩ => ⟨hended, ?_⟩
      have hbytes := h'.bytes
      rw [hnone] at hbytes
      exact (List.append_eq_nil_iff.mp hbytes.symm).2
    · refine (h'.grounds a hfuture).imp h fun ⟨hended, hnone⟩ => ⟨?_, hnone⟩
      rwa [h.source] at hended

theorem Answers.answered (h : Answers w a w') : Answered w [a] w' := by
  have hone : ∀ {P : Action → Prop}, P a → ∀ b ∈ [a], P b := by simp
  have hnone := (List.append_nil w.sink.taken).symm
  have hwake : ∀ {wake drained}, w.stop.wakeOf w.source.readable = some wake →
      Grounds w drained (.poll (.ok wake)) := by
    intro wake drained hw
    have hiff := WakeupSignal.wakeOf_eq_signalled_iff hw
    cases wake with
    | signalled => exact .signalled (hiff.mp rfl)
    | readable => exact .found (by simpa using hiff)
  cases h with
  | woken hp hw => exact ⟨rfl, hnone, rfl, rfl, List.suffix_rfl, List.suffix_rfl, hone (hwake hw)⟩
  | poll hp hplan hw => exact ⟨rfl, hnone, rfl, rfl, Plan.next_suffix _, List.suffix_rfl, hone (hwake hw)⟩
  | pollFailed hp hplan =>
    exact ⟨rfl, hnone, rfl, rfl, Plan.next_suffix _, List.suffix_rfl,
      hone (.pollFailed (Plan.mem_of_next hplan))⟩
  | read hplan hb hr =>
    refine ⟨?_, hnone, rfl, rfl, List.suffix_rfl, Plan.next_suffix _, hone ?_⟩
    · simp [allRead, Action.bytesRead]
    · cases htake : w.source.waiting.take bufferSize with
      | cons b bytes => exact .taken
      | nil =>
        have hwaiting : w.source.waiting = [] := (List.take_eq_nil_iff.mp htake).resolve_left (by decide)
        exact .drained ⟨by simpa [InputSource.readable, hwaiting] using hr, by simp [hwaiting]⟩
  | readFailed hplan =>
    exact ⟨rfl, hnone, rfl, rfl, List.suffix_rfl, Plan.next_suffix _,
      hone (.readFailed (Plan.mem_of_next hplan))⟩
  | broken hplan hb =>
    exact ⟨rfl, hnone, rfl, rfl, List.suffix_rfl, Plan.next_suffix _, hone (.broken hb)⟩
  | write offered =>
    refine ⟨rfl, ?_, rfl, rfl, List.suffix_rfl, List.suffix_rfl, hone (.other rfl)⟩
    simp [allTaken, Action.bytesTaken, Sink.taken_write]
  | flush =>
    refine ⟨rfl, ?_, rfl, rfl, List.suffix_rfl, List.suffix_rfl, hone (.other rfl)⟩
    simp [allTaken, Action.bytesTaken, Sink.flush_eq]

theorem Answered.of_trace (h : Trace Answers w calls w') : Answered w calls w' := by
  induction h with
  | nil w => exact .nil w
  | cons first _ ih => exact first.answered.append ih

section Calls

variable {outcome : InputWorker.Forwarded} (stop : Stopping)

theorem trace_of_output {o o' : OutputWorker.State} {calls : List OutputWorker.Call}
    (h : OutputWorker.Run o calls o') (hreads : calls.countP OutputWorker.Call.isRead = 0) (w : InputWorker) :
    ∃ actions, Trace (Both Step Answers) (⟨stop, .ofOutput o.point⟩, { w with sink := o.sink }) actions
      (⟨stop, .ofOutput o'.point⟩, { w with sink := o'.sink }) := by
  induction h with
  | nil o => exact ⟨[], .nil _⟩
  | @cons o o' o'' call rest first _ ih =>
    rw [List.countP_cons] at hreads
    obtain ⟨actions, hrun⟩ := ih (by omega)
    cases first with
    | read hp => simp [OutputWorker.Call.isRead] at hreads
    | @write left hp =>
      have hpoint : Point.ofOutput o.point = .writing left := by rw [hp]; rfl
      exact ⟨_, .cons ⟨.write _ hpoint, .write left⟩ hrun⟩
    | flush hp =>
      have hpoint : Point.ofOutput o.point = .flushing := by rw [hp]; rfl
      exact ⟨_, .cons ⟨.flush _ hpoint, .flush⟩ hrun⟩

theorem trace_put (w : InputWorker) (chunk : Bytes) :
    ∃ actions, Trace (Both Step Answers) (⟨stop, .ofOutput (.ofUnwritten chunk)⟩, w) actions
      (⟨stop, if (w.sink.put chunk).2 then .polling else .ended .sinkFailed⟩,
        { w with sink := (w.sink.put chunk).1 }) := by
  obtain ⟨calls, hreads, hrun⟩ := OutputWorker.run_put [] w.sink chunk
  obtain ⟨actions, htrace⟩ := trace_of_output stop hrun hreads w
  refine ⟨actions, ?_⟩
  cases hput : (w.sink.put chunk).2 <;> simpa [hput, Point.ofOutput] using htrace

def afterForwarded : InputWorker.Forwarded → Point
  | .again => .polling
  | .ended why => .ended why

-- A read ends the worker or sends it back to its poll.
theorem afterRead_error (e : Errno) : Point.afterRead (.error e) =
    afterForwarded (if e = Errno.interrupted then .again else .ended (.readFailed e)) := by
  by_cases he : e = Errno.interrupted <;> simp [Point.afterRead, afterForwarded, he]

theorem trace_forwardWaiting
    (hf : InputWorker.forwardWaiting { w with readPlan := w.readPlan.next.2 } = (outcome, next))
    (hplan : w.readPlan.next.1 = none) (hr : w.source.readable = true)
    (hsource : w.source.broken ≠ some Errno.interrupted) :
    ∃ actions, Trace (Both Step Answers) (⟨stop, .reading⟩, w) actions
      (⟨stop, afterForwarded outcome⟩, next) := by
  rw [InputWorker.forwardWaiting] at hf
  split at hf
  next e hbroken =>
    cases hf
    have he : e ≠ Errno.interrupted := by
      rintro rfl
      exact hsource hbroken
    have hafter := afterRead_error e
    rw [if_neg he] at hafter
    rw [← hafter]
    exact ⟨_, .cons ⟨.readFailed e rfl, .broken hplan hbroken⟩ (.nil _)⟩
  next hbroken =>
    have hread : Both Step Answers (⟨stop, .reading⟩, w) (.read (.ok (w.source.waiting.take bufferSize)))
        (⟨stop, .afterRead (.ok (w.source.waiting.take bufferSize))⟩,
          { w with
            readPlan := w.readPlan.next.2
            source := { w.source with waiting := w.source.waiting.drop bufferSize } }) :=
      ⟨.read rfl (List.length_take_le _ _), .read hplan hbroken hr⟩
    split at hf
    next hempty =>
      cases hf
      have hnone : w.source.waiting = [] := List.isEmpty_iff.mp hempty
      have hsame : ({ w.source with waiting := [] } : InputSource) = w.source := by rw [← hnone]
      simp only [hnone, List.take_nil, List.drop_nil, hsame] at hread
      exact ⟨_, .cons hread (.nil _)⟩
    next hwaiting =>
      cases hf
      have hchunk : w.source.waiting.take bufferSize ≠ [] := by
        simp only [ne_eq, List.take_eq_nil_iff, not_or]
        exact ⟨by decide, mt List.isEmpty_iff.mpr hwaiting⟩
      have hafter : Point.afterRead (.ok (w.source.waiting.take bufferSize)) =
          .ofOutput (.ofUnwritten (w.source.waiting.take bufferSize)) := by
        obtain ⟨b, bytes, hcons⟩ := List.exists_cons_of_ne_nil hchunk
        rw [hcons]
        rfl
      rw [hafter] at hread
      obtain ⟨actions, hput⟩ := trace_put stop
        { w with
          readPlan := w.readPlan.next.2
          source := { w.source with waiting := w.source.waiting.drop bufferSize } }
        (w.source.waiting.take bufferSize)
      refine ⟨_, .cons hread (?_ : Trace _ _ actions _)⟩
      cases hall : (w.sink.put (w.source.waiting.take bufferSize)).2 <;>
        simpa [hall, afterForwarded] using hput

theorem trace_forwardOnce (hf : w.forwardOnce = (outcome, next)) (hr : w.source.readable = true)
    (hsource : w.source.broken ≠ some Errno.interrupted) :
    ∃ actions, Trace (Both Step Answers) (⟨stop, .reading⟩, w) actions
      (⟨stop, afterForwarded outcome⟩, next) := by
  rw [InputWorker.forwardOnce] at hf
  split at hf
  next e plan hread =>
    cases hf
    have hplan : w.readPlan.next.1 = some e := by rw [hread]
    obtain rfl : w.readPlan.next.2 = plan := by rw [hread]
    rw [← afterRead_error]
    exact ⟨_, .cons ⟨.readFailed e rfl, .readFailed hplan⟩ (.nil _)⟩
  next plan hread =>
    have hplan : w.readPlan.next.1 = none := by rw [hread]
    obtain rfl : w.readPlan.next.2 = plan := by rw [hread]
    exact trace_forwardWaiting stop hf hplan hr hsource

-- Where a poll of a worker leads that has not ended.
def afterWait (stop : WakeupSignal) : Waited Wake → State :=
  WakeupSignal.waitedAt ⟨⟨stop, false⟩, .polling⟩ fun answer => ⟨⟨stop, false⟩, .afterPoll answer⟩

theorem trace_poll {answer : Waited Wake} {polled : InputWorker} (hp : w.poll = (answer, polled)) :
    ∃ actions polling plan, Trace (Both Step Answers) (⟨⟨w.stop, false⟩, .polling⟩, w) actions
        (afterWait w.stop answer, { polled with polling := polling, pollPlan := plan }) ∧
      polled.pollPlan <:+ plan ∧ (answer ≠ .blocked → polling = polled.polling ∧ plan = polled.pollPlan) := by
  rw [InputWorker.poll] at hp
  split at hp
  next hpolling =>
    split at hp
    next wake hw =>
      cases hp
      exact ⟨[.poll (.ok wake)], false, w.pollPlan, .cons ⟨.poll rfl hw, .woken hpolling hw⟩ (.nil _),
        List.suffix_rfl, fun _ => ⟨rfl, rfl⟩⟩
    next hw =>
      cases hp
      exact ⟨[], w.polling, w.pollPlan, .nil _, List.suffix_rfl, fun hne => False.elim (hne rfl)⟩
  next hpolling =>
    have hpolls : WakeupSignal.Polls (Both Step Answers) .poll
        (fun plan => (⟨⟨w.stop, false⟩, .polling⟩, { w with pollPlan := plan }))
        (fun plan answer => (⟨⟨w.stop, false⟩, .afterPoll answer⟩, { w with pollPlan := plan })) w.pollPlan
        (w.stop.waitOrReadable w.source.readable w.pollPlan) := by
      refine WakeupSignal.polls_waitOrReadable (fun plan => ?_) (fun plan e hplan => ?_)
        (fun plan wake hplan hw => ?_) w.pollPlan
      · rfl
      · exact ⟨.pollFailed e rfl, .pollFailed (by simpa using hpolling) hplan⟩
      · exact ⟨.poll rfl hw, .poll (by simpa using hpolling) hplan hw⟩
    obtain ⟨answers, last, htrace, hrest, hlast⟩ := hpolls
    split at hp
    next plan hwait =>
      cases hp
      rw [hwait] at htrace hrest
      exact ⟨answers.map .poll, w.polling, last, htrace, hrest, fun hne => False.elim (hne rfl)⟩
    next result plan hne hwait =>
      cases hp
      rw [hwait] at htrace hrest hlast
      refine ⟨answers.map .poll, w.polling, last, ?_, hrest, fun hne => ⟨rfl, hlast hne⟩⟩
      cases answer with
      | ready | failed | blocked => exact htrace

theorem ne_interrupted_of_poll {e : Errno} {polled : InputWorker}
    (hp : w.poll = (.failed e, polled)) : e ≠ Errno.interrupted := by
  have hfailed : w.poll.1 = .failed e := by rw [hp]
  rw [InputWorker.poll] at hfailed
  split at hfailed
  · split at hfailed <;> cases hfailed
  · split at hfailed
    · cases hfailed
    next result plan hne hwait =>
      have hpoll : (w.stop.waitOrReadable w.source.readable w.pollPlan).1 = .failed e := by
        rw [hwait]
        exact hfailed
      exact Plan.ne_interrupted_of_poll hpoll

-- A worker is at its end exactly if it is complete.
theorem ofWorker_of_running (hended : w.ending.isSome = w.completion.done)
    (hd : ¬w.completion.done = true) : State.ofWorker w = ⟨⟨w.stop, false⟩, .polling⟩ := by
  have hnone : w.ending = none := by
    rw [← Option.isNone_iff_eq_none, ← Option.not_isSome, hended]
    simpa using hd
  rw [State.ofWorker, hnone]
  rfl

-- A poll that finds the source and the read behind it, up to the next poll.
theorem trace_round (hrunning : State.ofWorker w = ⟨⟨w.stop, false⟩, .polling⟩) {polled : InputWorker}
    (hp : w.poll = (.ready .readable, polled)) (hf : polled.forwardOnce = (outcome, next))
    (hsource : w.source.broken ≠ some Errno.interrupted) :
    ∃ calls, Trace (Both Step Answers) (.ofWorker w, w) calls
      (⟨⟨w.stop, false⟩, afterForwarded outcome⟩, next) := by
  obtain ⟨polls, polling, plan, hpolls, -, hlast⟩ := trace_poll hp
  obtain ⟨rfl, rfl⟩ := hlast (by simp)
  have hready := InputWorker.wakeOf_of_ready hp
  obtain ⟨waits, rest, rfl⟩ := InputWorker.poll_frame hp
  obtain ⟨calls, hcalls⟩ :=
    trace_forwardOnce ⟨w.stop, false⟩ hf (WakeupSignal.readable_of_wakeOf hready) hsource
  rw [hrunning]
  exact ⟨polls ++ calls, hpolls.append hcalls⟩

theorem trace_advance (w : InputWorker) (hended : w.ending.isSome = w.completion.done)
    (hsource : w.source.broken ≠ some Errno.interrupted) :
    ∃ calls polling plan, Trace (Both Step Answers) (.ofWorker w, w) calls
        (.ofWorker w.advance, { w.advance with
          polling := polling, pollPlan := plan, ending := w.ending, completion := w.completion }) ∧
      w.advance.pollPlan <:+ plan := by
  fun_induction InputWorker.advance w with
  | case1 w hd => exact ⟨[], w.polling, w.pollPlan, .nil _, List.suffix_rfl⟩
  | case2 w hd polled hp =>
    obtain ⟨calls, polling, plan, htrace, hrest, -⟩ := trace_poll hp
    obtain ⟨waits, rest, rfl⟩ := InputWorker.poll_frame hp
    have hpolled : State.ofWorker { w with polling := waits, pollPlan := rest } =
        ⟨⟨w.stop, false⟩, .polling⟩ := ofWorker_of_running hended hd
    rw [ofWorker_of_running hended hd, hpolled]
    exact ⟨calls, polling, plan, htrace, hrest⟩
  | case3 w hd e polled hp =>
    obtain ⟨calls, polling, plan, htrace, hrest, -⟩ := trace_poll hp
    have he := ne_interrupted_of_poll hp
    obtain ⟨waits, rest, rfl⟩ := InputWorker.poll_frame hp
    have hafter : afterWait w.stop (.failed e) =
        ⟨⟨w.stop, false⟩, .ended (.pollFailed e)⟩ := by
      simp [afterWait, WakeupSignal.waitedAt, Point.afterPoll, he]
    rw [ofWorker_of_running hended hd]
    rw [hafter] at htrace
    exact ⟨calls, polling, plan, htrace, hrest⟩
  | case4 w hd polled hp =>
    obtain ⟨calls, polling, plan, htrace, hrest, -⟩ := trace_poll hp
    obtain ⟨waits, rest, rfl⟩ := InputWorker.poll_frame hp
    rw [ofWorker_of_running hended hd]
    exact ⟨calls, polling, plan, htrace, hrest⟩
  | case5 w hd polled hp why ended hf =>
    obtain ⟨calls, hcalls⟩ := trace_round (ofWorker_of_running hended hd) hp hf hsource
    obtain ⟨waits, rest, rfl⟩ := InputWorker.poll_frame hp
    obtain ⟨sink, waiting, left, rfl⟩ := InputWorker.forwardOnce_frame hf
    exact ⟨calls, waits, rest, hcalls, List.suffix_rfl⟩
  | case6 w hd polled hp next hf ih =>
    obtain ⟨calls, hcalls⟩ := trace_round (ofWorker_of_running hended hd) hp hf hsource
    obtain ⟨waits, rest, rfl⟩ := InputWorker.poll_frame hp
    obtain ⟨sink, waiting, left, hnext⟩ := InputWorker.forwardOnce_frame hf
    have hrunning : State.ofWorker next = ⟨⟨w.stop, false⟩, .polling⟩ := by
      rw [hnext]
      exact ofWorker_of_running hended hd
    have hsame : next.ending = w.ending ∧ next.completion = w.completion ∧
        next.source.broken = w.source.broken := by
      rw [hnext]
      exact ⟨rfl, rfl, rfl⟩
    obtain ⟨hending, hcompletion, hbroken⟩ := hsame
    rw [hrunning, hending, hcompletion, hbroken] at ih
    obtain ⟨more, polling, plan, hmore, hrest⟩ := ih hended hsource
    exact ⟨calls ++ more, polling, plan, hcalls.append hmore, hrest⟩

end Calls

-- What a worker does in one operation, told as calls. Its owner sees in the end only whether it waits, and
-- that it has ended.
structure Called (w : InputWorker) (calls : List Action) (w' : InputWorker) : Prop where
  run : Trace Step (.ofWorker w) calls (.ofWorker w')
  answers : ∃ polling plan, Trace Answers w calls
    { w' with polling := polling, pollPlan := plan, ending := w.ending, completion := w.completion }
  answered : Answered w calls w'

theorem called_advance (w : InputWorker) (hended : w.ending.isSome = w.completion.done)
    (hsource : w.source.broken ≠ some Errno.interrupted) : ∃ calls, Called w calls w.advance := by
  obtain ⟨calls, polling, plan, htrace, hrest⟩ := trace_advance w hended hsource
  have hanswered := Answered.of_trace htrace.snd
  exact ⟨calls, htrace.fst, ⟨polling, plan, htrace.snd⟩,
    { hanswered with pollPlan := hrest.trans hanswered.pollPlan }⟩

theorem trace_set {halves : List Stopping.Half} {stop : Stopping}
    (h : Trace Stopping.Step s.stop halves stop) :
    Trace Step s (halves.map .set) { s with stop := stop } :=
  h.map (fun stop => { s with stop := stop }) Action.set fun hset => Step.set hset

-- A shutdown sets the stop signal before the worker goes on.
theorem called_shutdown (w : InputWorker) (hended : w.ending.isSome = w.completion.done)
    (hsource : w.source.broken ≠ some Errno.interrupted) :
    ∃ (halves : List Stopping.Half) (calls : List Action),
      Trace Step (.ofWorker w) (halves.map .set) (.ofWorker { w with stop := w.stop.set }) ∧
      Called { w with stop := w.stop.set } calls w.shutdown := by
  obtain ⟨calls, hcalls⟩ := called_advance { w with stop := w.stop.set } hended hsource
  exact ⟨_, calls, trace_set (s := .ofWorker w) (Stopping.of_set w.stop), hcalls⟩

-- A worker whose stop signal is set between two operations of its owner takes nothing more, and ends with its
-- next poll.
theorem advance_of_stop (w : InputWorker) (hstop : w.stop.readable = true) :
    w.advance.source = w.source ∧ w.advance.sink = w.sink ∧
      (w.completion.done = false → (∀ e, w.poll.1 ≠ .failed e) → w.advance.ending = some .stopped) := by
  have hwake : w.stop.wakeOf w.source.readable = some .signalled := if_pos hstop
  rw [InputWorker.advance]
  split
  next hd => exact ⟨rfl, rfl, fun hrunning => Bool.noConfusion (hd.symm.trans hrunning)⟩
  next hd =>
    split
    next polled hp =>
      rw [InputWorker.wakeOf_of_blocked hp] at hwake
      cases hwake
    next e polled hp =>
      obtain ⟨polling, plan, rfl⟩ := InputWorker.poll_frame hp
      exact ⟨rfl, rfl, fun _ hne => False.elim (hne e (by rw [hp]))⟩
    next polled hp =>
      obtain ⟨polling, plan, rfl⟩ := InputWorker.poll_frame hp
      exact ⟨rfl, rfl, fun _ _ => rfl⟩
    next polled hp =>
      have hready := InputWorker.wakeOf_of_ready hp
      rw [hwake] at hready
      cases hready

end TermBridge.InputCalls
