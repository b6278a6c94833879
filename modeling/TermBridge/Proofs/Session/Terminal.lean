import TermBridge.Proofs.Session.OutputSteps

namespace TermBridge.OutputCalls

variable {s s' : State} {m m' m'' : MasterSide} {a : Action} {calls : List Action}

theorem allRead_append (past future : List Action) :
    allRead (past ++ future) = allRead past ++ allRead future :=
  List.flatMap_append

-- What an answer goes back to: the stop signal, the plans, or the end of the output.
inductive Grounds (told : Prop) (polls reads : Plan) (drained : Prop) : Action → Prop where
  | signalled (h : told) : Grounds told polls reads drained (.poll (.ok .signalled))
  | found : Grounds told polls reads drained (.poll (.ok .readable))
  | pollFailed {e : Errno} (h : e ∈ polls) : Grounds told polls reads drained (.poll (.error e))
  | taken {b : UInt8} {bytes : Bytes} : Grounds told polls reads drained (.read (.ok (b :: bytes)))
  | drained (h : drained) : Grounds told polls reads drained (.read (.ok []))
  | readFailed {e : Errno} (h : e ∈ reads) : Grounds told polls reads drained (.read (.error e))
  | other {a : Action} (ha : a.isAnswered = false) : Grounds told polls reads drained a

theorem Grounds.imp {told told' drained drained' : Prop} {polls polls' reads reads' : Plan}
    (h : Grounds told polls reads drained a) (htold : told → told') (hpolls : polls <:+ polls')
    (hreads : reads <:+ reads') (hdrained : drained → drained') : Grounds told' polls' reads' drained' a := by
  cases h with
  | signalled h => exact .signalled (htold h)
  | found => exact .found
  | pollFailed h => exact .pollFailed (hpolls.mem h)
  | taken => exact .taken
  | drained h => exact .drained (hdrained h)
  | readFailed h => exact .readFailed (hreads.mem h)
  | other ha => exact .other ha

-- An output ends with the stop signal, with the failure that tells of a hang-up, or with its last byte.
theorem Grounds.of_isEnd {told drained : Prop} {polls reads : Plan} (h : Grounds told polls reads drained a)
    (hend : a.isEnd = true) : told ∨ Errno.inputOutput ∈ reads ∨ drained := by
  cases h with
  | signalled h => exact .inl h
  | drained h => exact .inr (.inr h)
  | readFailed h =>
    obtain rfl : _ = Errno.inputOutput := by simpa [Action.isEnd] using hend
    exact .inr (.inl h)
  | found | pollFailed | taken => cases hend
  | other ha =>
    cases a with
    | poll | read => cases ha
    | set | call | returned => cases hend

-- What the calls have to do with the terminal. The bytes that they read are those that leave it. Nothing ends
-- the output but the stop signal, a planned failure, and a hang-up with nothing left to read.
structure Answered (m : MasterSide) (calls : List Action) (m' : MasterSide) : Prop where
  bytes : m.waiting = allRead calls ++ m'.waiting
  stop : m'.stop = m.stop
  hungUp : m'.hungUp = m.hungUp
  pollPlan : m'.pollPlan <:+ m.pollPlan
  readPlan : m'.readPlan <:+ m.readPlan
  grounds : ∀ a ∈ calls,
    Grounds (m.stop.readable = true) m.pollPlan m.readPlan (m.hungUp = true ∧ m'.waiting = []) a

theorem Answered.nil (m : MasterSide) : Answered m [] m where
  bytes := rfl
  stop := rfl
  hungUp := rfl
  pollPlan := List.suffix_rfl
  readPlan := List.suffix_rfl
  grounds := by simp

theorem Answered.nothing_left (h : Answered m calls m') (hnone : m.waiting = []) : m'.waiting = [] := by
  have hbytes := h.bytes
  rw [hnone] at hbytes
  exact (List.append_eq_nil_iff.mp hbytes.symm).2

theorem Answered.append {past future : List Action} (h : Answered m past m') (h' : Answered m' future m'') :
    Answered m (past ++ future) m'' where
  bytes := by
    rw [h.bytes, h'.bytes, allRead_append, List.append_assoc]
  stop := h'.stop.trans h.stop
  hungUp := h'.hungUp.trans h.hungUp
  pollPlan := h'.pollPlan.trans h.pollPlan
  readPlan := h'.readPlan.trans h.readPlan
  grounds := by
    intro a ha
    rcases List.mem_append.mp ha with hpast | hfuture
    · exact (h.grounds a hpast).imp id List.suffix_rfl List.suffix_rfl (And.imp_right h'.nothing_left)
    · exact (h'.grounds a hfuture).imp (h.stop ▸ id) h.pollPlan h.readPlan
        (And.imp_left h.hungUp.symm.trans)

theorem Answers.answered (h : Answers m a m') : Answered m [a] m' := by
  -- an action is nothing but itself
  have hone : ∀ {P : Action → Prop}, P a → ∀ b ∈ [a], P b := by simp
  cases h with
  | call n => exact ⟨rfl, rfl, rfl, List.suffix_rfl, List.suffix_rfl, hone (.other rfl)⟩
  | @poll wake hplan hw =>
    refine ⟨rfl, rfl, rfl, Plan.next_suffix _, List.suffix_rfl, hone ?_⟩
    cases wake with
    | signalled => exact .signalled ((WakeupSignal.wakeOf_eq_signalled_iff hw).mp rfl)
    | readable => exact .found
  | pollFailed hplan =>
    exact ⟨rfl, rfl, rfl, Plan.next_suffix _, List.suffix_rfl, hone (.pollFailed (Plan.mem_of_next hplan))⟩
  | @read n hn hplan hr =>
    refine ⟨?_, rfl, rfl, List.suffix_rfl, Plan.next_suffix _, hone ?_⟩
    · simp [allRead, Action.bytesRead]
    · cases htake : m.waiting.take n with
      | cons b bytes => exact .taken
      | nil =>
        have hwaiting : m.waiting = [] := (List.take_eq_nil_iff.mp htake).resolve_left (by omega)
        exact .drained ⟨by simpa [MasterSide.readable, hwaiting] using hr, by simp [hwaiting]⟩
  | readFailed hplan =>
    exact ⟨rfl, rfl, rfl, List.suffix_rfl, Plan.next_suffix _, hone (.readFailed (Plan.mem_of_next hplan))⟩

theorem Answers.inside (h : Answers m a m') : a.isSet = false ∧ a.result? = none := by
  cases h <;> exact ⟨rfl, rfl⟩

theorem inside_of_trace (h : Trace Answers m calls m') : ∀ a ∈ calls, a.isSet = false ∧ a.result? = none := by
  induction h with
  | nil m => simp
  | cons first _ ih => exact List.forall_mem_cons.mpr ⟨first.inside, ih⟩

theorem Answered.of_trace (h : Trace Answers m calls m') : Answered m calls m' := by
  induction h with
  | nil m => exact .nil m
  | cons first _ ih => exact first.answered.append ih

-- What an endpoint makes of a read of its terminal.
def State.afterMaster (n : Nat) (s : State) : ReadResult → State
  | .bytes bytes => s.afterRead n (.ok bytes)
  | .failed e => { s with point := .returning (.error e) }
  | .blocked => s

theorem State.afterRead_of_point (n : Nat) (s : State) (p : Point) (answer : Except Errno Bytes) :
    State.afterRead n { s with point := p } answer = s.afterRead n answer := by
  cases answer with
  | ok bytes => cases bytes <;> rfl
  | error e =>
    simp only [afterRead]
    split <;> rfl

section Master

variable {n : Nat} {answer : Waited Wake} {plan : Plan}

theorem trace_wait (hstop : s.stop.signal = m.stop) (hp : s.point = .polling n)
    (hwait : m.stop.waitOrReadable m.readable m.pollPlan = (answer, plan)) :
    ∃ calls last, Trace (Both Step Answers) (s, m) calls
        (WakeupSignal.waitedAt s (s.afterPoll n) answer, { m with pollPlan := last }) ∧
      plan <:+ last ∧ (answer ≠ .blocked → last = plan) := by
  have hagain : s.afterPoll n (.error Errno.interrupted) = s := by
    simp [State.afterPoll, ← hp]
  have hpolls : WakeupSignal.Polls (Both Step Answers) .poll (fun plan => (s, { m with pollPlan := plan }))
      (fun plan answer => (s.afterPoll n answer, { m with pollPlan := plan })) m.pollPlan
      (m.stop.waitOrReadable m.readable m.pollPlan) := by
    refine WakeupSignal.polls_waitOrReadable (fun plan => ?_) (fun plan e hplan => ?_)
      (fun plan wake hplan hw => ?_) m.pollPlan
    · simp only [hagain]
    · exact ⟨.pollFailed e hp, .pollFailed hplan⟩
    · exact ⟨.poll hp (by rwa [hstop]), .poll hplan hw⟩
  rw [hwait] at hpolls
  obtain ⟨answers, last, htrace, hlast⟩ := hpolls
  refine ⟨answers.map .poll, last, ?_, hlast⟩
  cases answer with
  | ready | failed | blocked => exact htrace

variable (hstop : s.stop.signal = m.stop) (hp : s.point = .polling n)
  (hwait : m.stop.waitOrReadable m.readable m.pollPlan = (.ready .readable, plan))

include hstop hp hwait

theorem trace_found {reply : Except Errno Bytes}
    (hread : Step { s with point := .reading n } (.read reply)
      (State.afterRead n { s with point := .reading n } reply))
    (hanswer : Answers { m with pollPlan := plan } (.read reply) m') :
    ∃ calls, Trace (Both Step Answers) (s, m) calls (s.afterRead n reply, m') := by
  obtain ⟨calls, last, htrace, -, hlast⟩ := trace_wait hstop hp hwait
  obtain rfl := hlast (by simp)
  rw [State.afterRead_of_point] at hread
  exact ⟨_, htrace.concat ⟨hread, hanswer⟩⟩

theorem trace_take (hn : 0 < n) (hplan : m.readPlan.next.1 = none) :
    ∃ calls, Trace (Both Step Answers) (s, m) calls (s.afterRead n (.ok (m.waiting.take n)),
      { m with waiting := m.waiting.drop n, pollPlan := plan, readPlan := m.readPlan.next.2 }) := by
  have hready : (m.stop.waitOrReadable m.readable m.pollPlan).1 = .ready .readable := by rw [hwait]
  have hw : m.stop.wakeOf m.readable = some .readable := Plan.eq_some_of_poll hready
  exact trace_found hstop hp hwait (.read rfl (List.length_take_le n m.waiting))
    (.read hn hplan (WakeupSignal.readable_of_wakeOf hw))

theorem trace_failing {e : Errno} (hplan : m.readPlan.next.1 = some e) :
    ∃ calls, Trace (Both Step Answers) (s, m) calls (s.afterRead n (.error e),
      { m with pollPlan := plan, readPlan := m.readPlan.next.2 }) :=
  trace_found hstop hp hwait (.readFailed e rfl) (.readFailed hplan)

omit hwait

theorem trace_master (hn : 0 < n) :
    ∃ calls last, Trace (Both Step Answers) (s, m) calls
        (s.afterMaster n (m.read n).1, { (m.read n).2 with pollPlan := last }) ∧
      (m.read n).2.pollPlan <:+ last ∧ ((m.read n).1 ≠ .blocked → last = (m.read n).2.pollPlan) := by
  fun_induction MasterSide.read n m with
  | case1 m hzero => omega
  | case2 m hpos plan hwait =>
    obtain ⟨calls, last, htrace, hrest, -⟩ := trace_wait hstop hp hwait
    exact ⟨calls, last, htrace, hrest, fun hne => False.elim (hne rfl)⟩
  | case3 m hpos e plan hwait =>
    obtain ⟨calls, last, htrace, hrest, hlast⟩ := trace_wait hstop hp hwait
    have he : e ≠ Errno.interrupted := by
      have hfailed : (m.stop.waitOrReadable m.readable m.pollPlan).1 = .failed e := by rw [hwait]
      exact Plan.ne_interrupted_of_poll hfailed
    have hafter : WakeupSignal.waitedAt s (s.afterPoll n) (.failed e) = s.afterMaster n (.failed e) := by
      simp [WakeupSignal.waitedAt, State.afterPoll, State.afterMaster, he]
    rw [hafter] at htrace
    exact ⟨calls, last, htrace, hrest, fun _ => hlast (by simp)⟩
  | case4 m hpos plan hwait =>
    obtain ⟨calls, last, htrace, hrest, hlast⟩ := trace_wait hstop hp hwait
    exact ⟨calls, last, htrace, hrest, fun _ => hlast (by simp)⟩
  | case5 m hpos plan hwait hplan =>
    obtain ⟨calls, htrace⟩ := trace_take hstop hp hwait hn (by rw [hplan]; rfl)
    simp only [hplan, Plan.next] at htrace
    simp only [MasterSide.take, hplan]
    exact ⟨calls, plan, htrace, List.suffix_rfl, fun _ => rfl⟩
  | case6 m hpos plan hwait e rest hplan m' hpass =>
    obtain ⟨calls, htrace⟩ := trace_take hstop hp hwait hn (by simp [hplan, Plan.next, hpass])
    simp only [hplan, Plan.next] at htrace
    exact ⟨calls, plan, htrace, List.suffix_rfl, fun _ => rfl⟩
  | case7 m hpos plan hwait rest m' hplan hpass =>
    obtain ⟨calls, htrace⟩ := trace_failing hstop hp hwait (e := Errno.inputOutput) (by rw [hplan]; rfl)
    simp only [hplan, Plan.next] at htrace
    exact ⟨calls, plan, htrace, List.suffix_rfl, fun _ => rfl⟩
  | case8 m hpos plan hwait e rest hplan m' hpass heio hagain ih =>
    obtain ⟨waits, hwaits⟩ := trace_failing hstop hp hwait (e := e) (by simp [hplan, Plan.next, hpass])
    have hagain' : s.afterRead n (.error e) = s := by simp [State.afterRead, heio, hagain, ← hp]
    simp only [hplan, Plan.next, hagain'] at hwaits
    obtain ⟨calls, last, hcalls, hlast⟩ := ih hstop
    exact ⟨waits ++ calls, last, hwaits.append hcalls, hlast⟩
  | case9 m hpos plan hwait e rest hplan m' hpass heio hagain =>
    obtain ⟨calls, htrace⟩ := trace_failing hstop hp hwait (e := e) (by simp [hplan, Plan.next, hpass])
    have hafter : s.afterRead n (.error e) = s.afterMaster n (.failed e) := by
      simp [State.afterRead, State.afterMaster, heio, hagain]
    simp only [hplan, Plan.next, hafter] at htrace
    exact ⟨calls, plan, htrace, List.suffix_rfl, fun _ => rfl⟩

omit hstop hp

theorem read_stop (n : Nat) (m : MasterSide) : (m.read n).2.stop = m.stop := by
  fun_induction MasterSide.read n m with
  | case8 m hpos plan hwait e rest hplan m' hpass heio hagain ih => exact ih
  | _ => rfl

-- A read is blocked only if there is nothing to read and nothing to end it.
theorem of_blocked (h : (m.read n).1 = .blocked) :
    (m.read n).2.stop.readable = false ∧ (m.read n).2.readable = false := by
  fun_induction MasterSide.read n m with
  | case2 m hpos plan hwait =>
    have hblocked : (m.stop.waitOrReadable m.readable m.pollPlan).1 = .blocked := by rw [hwait]
    exact WakeupSignal.wakeOf_eq_none_iff.mp (Plan.eq_none_of_poll hblocked)
  | case8 m hpos plan hwait e rest hplan m' hpass heio hagain ih => exact ih h
  | _ => cases h

end Master

theorem reads_of_requested (h : Trace Step s calls s') (hr : s.stop.Requested)
    (hp : ∀ n, s.point ≠ .reading n) : ∀ a ∈ calls, a.isRead = false := by
  induction h with
  | nil s => simp
  | cons first _ ih =>
    obtain ⟨hread, hp'⟩ := first.not_reading hr hp
    exact List.forall_mem_cons.mpr ⟨hread, ih (first.requested hr) hp'⟩

variable {o : SessionOutput} {n : Nat}

-- A call that gets as far as the terminal ends as the read of the terminal does.
theorem afterMaster_eq (hn : n ≠ 0) (hfront : o.front.isEmpty = true) (hended : o.ended = false) :
    State.afterMaster n { State.ofOutput o with point := .polling n } (o.master.read n).1 =
      .afterResult n (o.read n).2 (o.read n).1 := by
  simp only [SessionOutput.read, hn, hfront, hended, if_false, Bool.not_true, Bool.false_eq_true]
  rcases hread : o.master.read n with ⟨result, master⟩
  have hkept : master.stop = o.master.stop := by rw [← read_stop n o.master, hread]
  cases result with
  | failed e => simp [State.afterMaster, State.afterResult, State.ofOutput, hkept, hended]
  | blocked => simp [State.afterMaster, State.afterResult, State.ofOutput, hkept, hended]
  | bytes bytes =>
    cases bytes with
    | nil =>
      simp [State.afterMaster, State.afterRead, State.atEnd, State.readBack, State.afterResult,
        State.ofOutput, SessionOutput.readBack, hkept]
    | cons b bytes =>
      simp [State.afterMaster, State.afterRead, State.afterResult, State.ofOutput, hkept, hended]

theorem read_master (hn : n ≠ 0) (hfront : o.front.isEmpty = true) (hended : o.ended = false) :
    (o.read n).2.master = (o.master.read n).2 ∧
      ((o.read n).1 = .blocked ↔ (o.master.read n).1 = .blocked) := by
  simp only [SessionOutput.read, hn, hfront, hended, if_false, Bool.not_true, Bool.false_eq_true]
  rcases o.master.read n with ⟨result, master⟩
  cases result with
  | failed | blocked => simp
  | bytes bytes => cases bytes <;> simp [SessionOutput.readBack]

-- A read of an endpoint as the calls that it makes, from where the endpoint stands to where it ends. It is
-- blocked only while there is neither output nor an end.
structure Called (n : Nat) (o : SessionOutput) (start : State) (calls : List Action) : Prop where
  run : Trace Step start calls (.afterResult n (o.read n).2 (o.read n).1)
  answers : ∃ last, Trace Answers o.master calls { (o.read n).2.master with pollPlan := last } ∧
    (o.read n).2.master.pollPlan <:+ last ∧
    ((o.read n).1 ≠ .blocked → last = (o.read n).2.master.pollPlan)
  inside : ∀ a ∈ calls, a.isSet = false ∧ a.result? = none
  answered : Answered o.master calls (o.read n).2.master
  stopped : o.master.stop.readable = true → ∀ a ∈ calls, a.isRead = false
  blocked : (o.read n).1 = .blocked →
    (o.read n).2.master.stop.readable = false ∧ (o.read n).2.master.readable = false

theorem called_of_polling (hn : 0 < n) (hfront : o.front.isEmpty = true) (hended : o.ended = false) :
    ∃ calls, Called n o { State.ofOutput o with point := .polling n } calls := by
  have hpos : n ≠ 0 := Nat.ne_of_gt hn
  obtain ⟨calls, last, htrace, hrest, hlast⟩ :=
    trace_master (s := { State.ofOutput o with point := .polling n }) (m := o.master) rfl rfl hn
  rw [afterMaster_eq hpos hfront hended] at htrace
  obtain ⟨hmaster, hblocked⟩ := read_master hpos hfront hended
  rw [← hmaster] at htrace hrest hlast
  have hanswered := Answered.of_trace htrace.snd
  refine ⟨calls, htrace.fst, ⟨last, htrace.snd, hrest, fun hne => hlast (mt hblocked.mpr hne)⟩,
    inside_of_trace htrace.snd, { hanswered with pollPlan := hrest.trans hanswered.pollPlan },
    fun hr => ?_, fun hnone => ?_⟩
  · exact reads_of_requested htrace.fst hr nofun
  · rw [hmaster]
    exact of_blocked (hblocked.mp hnone)

theorem called_read (hn : 0 < n) (o : SessionOutput) :
    ∃ calls, Called n o (.ofOutput o) (.call n :: calls) := by
  have hcall : Step (.ofOutput o) (.call n) (State.afterCall n (.ofOutput o)) := .call hn rfl
  have hpos : n ≠ 0 := Nat.ne_of_gt hn
  -- a read without the terminal
  have hnow : State.afterCall n (.ofOutput o) = .afterResult n (o.read n).2 (o.read n).1 →
      (o.read n).2.master = o.master → (o.read n).1 ≠ .blocked →
      Called n o (.ofOutput o) [.call n] := by
    intro hsame hmaster hne
    have hanswers : Answers o.master (.call n) o.master := .call n
    rw [hsame] at hcall
    refine ⟨.cons hcall (.nil _), ⟨o.master.pollPlan, ?_, ?_, fun _ => ?_⟩, ?_, ?_, fun _ => ?_,
      fun hblocked => False.elim (hne hblocked)⟩
    · rw [hmaster]
      exact .cons hanswers (.nil _)
    · exact hmaster ▸ List.suffix_rfl
    · rw [hmaster]
    · simpa using hanswers.inside
    · rw [hmaster]
      exact hanswers.answered
    · simp [Action.isRead]
  cases hfront : o.front.isEmpty with
  | false =>
    refine ⟨[], hnow ?_ ?_ ?_⟩ <;>
      simp [State.afterCall, State.ofOutput, State.afterResult, SessionOutput.read, hpos, hfront]
  | true =>
    cases hended : o.ended with
    | true =>
      refine ⟨[], hnow ?_ ?_ ?_⟩ <;>
        simp [State.afterCall, State.ofOutput, State.afterResult, SessionOutput.read, hpos, hfront, hended,
          SessionOutput.readBack, State.readBack]
    | false =>
      have hasked : State.afterCall n (.ofOutput o) = { State.ofOutput o with point := .polling n } := by
        simp [State.afterCall, State.ofOutput, hfront, hended]
      rw [hasked] at hcall
      obtain ⟨calls, hcalled⟩ := called_of_polling hn hfront hended
      obtain ⟨last, hanswers, hrest⟩ := hcalled.answers
      have hown : Answers o.master (.call n) o.master := .call n
      refine ⟨calls, .cons hcall hcalled.run, ⟨last, .cons hown hanswers, hrest⟩,
        List.forall_mem_cons.mpr ⟨hown.inside, hcalled.inside⟩, hown.answered.append hcalled.answered,
        fun hr => ?_, hcalled.blocked⟩
      exact List.forall_mem_cons.mpr ⟨rfl, hcalled.stopped hr⟩

theorem trace_set {halves : List Stopping.Half} {stop : Stopping}
    (h : Trace Stopping.Step s.stop halves stop) :
    Trace Step s (halves.map .set) { s with stop := stop } :=
  h.map (fun stop => { s with stop := stop }) Action.set fun hset => Step.set hset

theorem trace_halt (o : SessionOutput) :
    Trace Step (.ofOutput o) ((.swap :: if o.master.stop.pending then [] else [.write]).map .set)
      (.ofOutput o.halt) :=
  trace_set (s := .ofOutput o) (Stopping.of_set o.master.stop)

end TermBridge.OutputCalls
