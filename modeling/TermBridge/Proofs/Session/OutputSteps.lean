import TermBridge.Proofs.Wakeup.Stopping
import TermBridge.Proofs.Wakeup.Watch
import TermBridge.Session.Calls

namespace TermBridge.OutputCalls

variable {mode : MouseMode} {s s' : State} {a : Action} {e : Errno}

namespace Action

-- An answer without bytes.
structure Bare (a : Action) : Prop where
  read : a.bytesRead = []
  returned : a.bytesReturned = []
  set : a.isSet = false

theorem bare_of_isPassing (h : a.isPassing = true) : a.Bare := by
  unfold isPassing at h
  split at h
  next => exact ⟨rfl, rfl, rfl⟩
  next => exact ⟨rfl, rfl, rfl⟩
  next => cases h

theorem bare_of_isEnd (h : a.isEnd = true) : a.Bare := by
  unfold isEnd at h
  split at h
  next => exact ⟨rfl, rfl, rfl⟩
  next => exact ⟨rfl, rfl, rfl⟩
  next => exact ⟨rfl, rfl, rfl⟩
  next => cases h

theorem bare_of_failure (h : a.failure = some e) : a.Bare := by
  unfold failure at h
  split at h
  next => exact ⟨rfl, rfl, rfl⟩
  next => exact ⟨rfl, rfl, rfl⟩
  next => cases h

-- An answer ends the output, is passed over, or is a failure to tell of.

theorem isEnd_of_isPassing (h : a.isPassing = true) : a.isEnd = false := by
  unfold isPassing at h
  split at h
  next => rfl
  next e =>
    have he : e ≠ Errno.inputOutput := by
      rintro rfl
      revert h
      decide
    simp [isEnd, he]
  next => cases h

theorem isPassing_of_isEnd (h : a.isEnd = true) : a.isPassing = false := by
  cases hpass : a.isPassing with
  | false => rfl
  | true => exact Bool.noConfusion ((isEnd_of_isPassing hpass).symm.trans h)

theorem isEnd_of_failure (h : a.failure = some e) : a.isEnd = false := by
  unfold failure at h
  split at h
  next => rfl
  next d =>
    have hd : d ≠ Errno.inputOutput := by
      rintro rfl
      cases h
    simp [isEnd, hd]
  next => cases h

theorem isPassing_of_failure (h : a.failure = some e) : a.isPassing = false := by
  unfold failure at h
  split at h
  next d =>
    have hd : d ≠ Errno.interrupted := by
      rintro rfl
      cases h
    simp [isPassing, hd]
  next d =>
    cases hpass : MasterSide.isPassing d with
    | false => exact hpass
    | true => simp [hpass] at h
  next => cases h

theorem shows_of_isPassing (h : a.isPassing = true) : a.shows = false := by
  unfold shows
  split
  · rfl
  · simp [h]

end Action

-- What a step can do.
inductive Move (s : State) : Action → State → Prop where
  | set (half : Stopping.Half) (stop : Stopping) : Move s (.set half) { s with stop := stop }
  | front {n : Nat} (hn : 0 < n) (hp : s.point = .idle) (hf : s.front ≠ []) :
    Move s (.call n) { s with front := s.front.drop n, point := .returning (.ok (s.front.take n)) }
  | back {n : Nat} (hn : 0 < n) (hp : s.point = .idle) (hf : s.front = []) (he : s.ended = true) :
    Move s (.call n) (s.readBack n)
  | ask {n : Nat} (hn : 0 < n) (hp : s.point = .idle) (hf : s.front = []) (he : s.ended = false) :
    Move s (.call n) { s with point := .polling n }
  | found {n : Nat} (hp : s.point = .polling n) :
    Move s (.poll (.ok .readable)) { s with point := .reading n }
  | again {n : Nat} {a : Action} (hp : s.point = .polling n ∨ s.point = .reading n)
    (ha : a.isPassing = true) : Move s a { s with point := .polling n }
  | finished {n : Nat} {a : Action} (hp : s.point = .polling n ∨ s.point = .reading n)
    (ha : a.isEnd = true) : Move s a (s.atEnd n)
  | taken {n : Nat} {b : UInt8} {bytes : Bytes} (hp : s.point = .reading n) :
    Move s (.read (.ok (b :: bytes))) { s with point := .returning (.ok (b :: bytes)) }
  | failed {n : Nat} {a : Action} {e : Errno} (hp : s.point = .polling n ∨ s.point = .reading n)
    (ha : a.failure = some e) : Move s a { s with point := .returning (.error e) }
  | returned {result : Except Errno Bytes} (hp : s.point = .returning result) :
    Move s (.returned result) { s with point := .idle }

theorem Step.move (h : Step s a s') : Move s a s' := by
  cases h with
  | set hset => exact .set _ _
  | @call n hn hp =>
    rw [State.afterCall]
    split
    next hf => exact .front hn hp (by simpa using hf)
    next hf =>
      have hfront : s.front = [] := by simpa using hf
      split
      next he => exact .back hn hp hfront he
      next he => exact .ask hn hp hfront (by simpa using he)
  | @poll n _ wake hp hw =>
    cases wake with
    | signalled => exact .finished (.inl hp) rfl
    | readable => exact .found hp
  | @pollFailed n e hp =>
    by_cases he : e = Errno.interrupted
    · subst he
      exact .again (.inl hp) rfl
    · simpa [State.afterPoll, he] using Move.failed (.inl hp) (by simp [Action.failure, he])
  | @read n bytes hp hlen =>
    cases bytes with
    | nil => exact .finished (.inr hp) rfl
    | cons b bytes => exact .taken hp
  | @readFailed n e hp =>
    by_cases heio : e = Errno.inputOutput
    · subst heio
      exact .finished (.inr hp) rfl
    · cases hpass : MasterSide.isPassing e with
      | true =>
        have ha : (Action.read (.error e)).isPassing = true := hpass
        simpa [State.afterRead, heio, hpass] using Move.again (.inr hp) ha
      | false =>
        simpa [State.afterRead, heio, hpass] using
          Move.failed (.inr hp) (by simp [Action.failure, heio, hpass])
  | returned hp => exact .returned hp

-- What is on its way to the reader.
def Point.due : Point → Bytes
  | .returning (.ok bytes) => bytes
  | _ => []

-- Whether a call has got as far as the terminal, and has no bytes to return so far.
def Point.asked : Point → Bool
  | .polling _ | .reading _ | .returning (.error _) => true
  | .idle | .returning (.ok _) => false

@[simp] theorem Point.due_idle : idle.due = [] := rfl

@[simp] theorem Point.due_polling (n : Nat) : (polling n).due = [] := rfl

@[simp] theorem Point.due_reading (n : Nat) : (reading n).due = [] := rfl

@[simp] theorem Point.due_returning_ok (bytes : Bytes) : (returning (.ok bytes)).due = bytes := rfl

@[simp] theorem Point.due_returning_error (e : Errno) : (returning (.error e)).due = [] := rfl

theorem Point.asked_of_waiting {p : Point} {n : Nat} (h : p = .polling n ∨ p = .reading n) :
    p.asked = true := by
  rcases h with rfl | rfl <;> rfl

theorem Point.due_of_asked {p : Point} (h : p.asked = true) : p.due = [] := by
  cases p with
  | polling n => rfl
  | reading n => rfl
  | idle => cases h
  | returning result =>
    cases result with
    | ok bytes => cases h
    | error e => rfl

structure Sound (mode : MouseMode) (s : State) : Prop where
  framed : s.framed = (State.opened mode).framed
  frontPart : s.front <:+ (State.opened mode).front
  backPart : s.back <:+ (State.opened mode).back
  front : s.point.asked = true → s.front = []
  running : s.point.asked = true → s.ended = false
  back : s.ended = false → s.back = (State.opened mode).back
  room : ∀ n, s.point = .polling n ∨ s.point = .reading n → 0 < n

theorem sound_opened (mode : MouseMode) : Sound mode (.opened mode) := by
  have hpoint : (State.opened mode).point = .idle := rfl
  refine ⟨rfl, List.suffix_rfl, List.suffix_rfl, ?_, ?_, fun _ => rfl, ?_⟩ <;> rw [hpoint] <;> exact nofun

theorem back_of_unframed (h : (State.opened mode).framed = false) : (State.opened mode).back = [] := by
  cases mode with
  | auto => rfl
  | force => cases h

theorem Step.sound (h : Step s a s') (hs : Sound mode s) : Sound mode s' := by
  have hfront : ∀ n, s.front.drop n <:+ (State.opened mode).front :=
    fun n => (List.drop_suffix n s.front).trans hs.frontPart
  have hback : ∀ n, s.back.drop n <:+ (State.opened mode).back :=
    fun n => (List.drop_suffix n s.back).trans hs.backPart
  cases h.move with
  | set half stop => exact { hs with }
  | front hn hp hf => exact ⟨hs.framed, hfront _, hs.backPart, nofun, nofun, hs.back, nofun⟩
  | back hn hp hf he =>
    refine ⟨hs.framed, hs.frontPart, hback _, nofun, nofun, fun hrunning => ?_, nofun⟩
    exact Bool.noConfusion (he.symm.trans hrunning)
  | @ask n hn hp hf he =>
    refine ⟨hs.framed, hs.frontPart, hs.backPart, fun _ => hf, fun _ => he, hs.back, ?_⟩
    rintro m (hm | hm) <;> cases hm
    exact hn
  | @found n hp =>
    have hasked := Point.asked_of_waiting (.inl hp)
    refine ⟨hs.framed, hs.frontPart, hs.backPart, fun _ => hs.front hasked, fun _ => hs.running hasked,
      hs.back, ?_⟩
    rintro m (hm | hm) <;> cases hm
    exact hs.room n (.inl hp)
  | @again n a hp ha =>
    have hasked := Point.asked_of_waiting hp
    refine ⟨hs.framed, hs.frontPart, hs.backPart, fun _ => hs.front hasked, fun _ => hs.running hasked,
      hs.back, ?_⟩
    rintro m (hm | hm) <;> cases hm
    exact hs.room n hp
  | @finished n a hp ha =>
    refine ⟨hs.framed, hs.frontPart, hback _, nofun, nofun, fun hrunning => ?_, nofun⟩
    -- only an output without sequences goes on behind its end
    have hnone := back_of_unframed (hs.framed.symm.trans hrunning)
    rw [hnone]
    simp [State.atEnd, State.readBack, hs.back (hs.running (Point.asked_of_waiting hp)), hnone]
  | taken hp => exact ⟨hs.framed, hs.frontPart, hs.backPart, nofun, nofun, hs.back, nofun⟩
  | failed hp ha =>
    have hasked := Point.asked_of_waiting hp
    exact ⟨hs.framed, hs.frontPart, hs.backPart, fun _ => hs.front hasked, fun _ => hs.running hasked,
      hs.back, nofun⟩
  | returned hp => exact ⟨hs.framed, hs.frontPart, hs.backPart, nofun, nofun, hs.back, nofun⟩

theorem State.back_readBack_of_empty {n : Nat} (hn : 0 < n)
    (h : (s.readBack n).point = .returning (.ok [])) : (s.readBack n).back = [] := by
  have htake : s.back.take n = [] := by simpa [State.readBack] using h
  rcases List.take_eq_nil_iff.mp htake with hzero | hback
  · omega
  · simp [State.readBack, hback]

-- What the reader has still to get, as long as the terminal gives nothing more.
def State.rest (s : State) : Bytes :=
  s.point.due ++ s.front ++ s.back

theorem Step.account (h : Step s a s') (hs : Sound mode s) :
    a.bytesReturned ++ s'.rest = a.bytesRead ++ s.rest := by
  cases h.move with
  | set half stop => rfl
  | front hn hp hf => simp [State.rest, Action.bytesReturned, Action.bytesRead, hp]
  | back hn hp hf he =>
    simp [State.rest, Action.bytesReturned, Action.bytesRead, hp, hf, State.readBack]
  | ask hn hp hf he => simp [State.rest, Action.bytesReturned, Action.bytesRead, hp]
  | found hp => simp [State.rest, Action.bytesReturned, Action.bytesRead, hp]
  | again hp ha =>
    have hdue := Point.due_of_asked (Point.asked_of_waiting hp)
    have hbare := Action.bare_of_isPassing ha
    simp [State.rest, hbare.read, hbare.returned, hdue]
  | finished hp ha =>
    have hasked := Point.asked_of_waiting hp
    have hbare := Action.bare_of_isEnd ha
    simp [State.rest, hbare.read, hbare.returned, Point.due_of_asked hasked, hs.front hasked,
      State.atEnd, State.readBack]
  | taken hp =>
    have hasked := Point.asked_of_waiting (.inr hp)
    simp [State.rest, Action.bytesReturned, Action.bytesRead, hp, hs.front hasked]
  | failed hp ha =>
    have hdue := Point.due_of_asked (Point.asked_of_waiting hp)
    have hbare := Action.bare_of_failure ha
    simp [State.rest, hbare.read, hbare.returned, hdue]
  | @returned result hp =>
    cases result <;> simp [State.rest, Action.bytesReturned, Action.bytesRead, hp]

namespace Step

theorem of_isEnd (h : Step s a s') (ha : a.isEnd = true) :
    ∃ n, (s.point = .polling n ∨ s.point = .reading n) ∧ s' = s.atEnd n := by
  cases h.move with
  | @finished n a hp _ => exact ⟨n, hp, rfl⟩
  | again hp hpass => simp [Action.isEnd_of_isPassing hpass] at ha
  | failed hp hfail => simp [Action.isEnd_of_failure hfail] at ha
  | set | front | back | ask | found | taken | returned => cases ha

theorem ended_eq (h : Step s a s') (ha : a.isEnd = false) : s'.ended = s.ended := by
  cases h.move with
  | finished hp hend => simp [hend] at ha
  | set | front | back | ask | found | again | taken | failed | returned => rfl

theorem bytesRead_eq_nil (h : Step s a s') (hs : s.point.asked = false) : a.bytesRead = [] := by
  cases h.move with
  | taken hp => simp [hp, Point.asked] at hs
  | again hp hpass => exact (Action.bare_of_isPassing hpass).read
  | finished hp hend => exact (Action.bare_of_isEnd hend).read
  | failed hp hfail => exact (Action.bare_of_failure hfail).read
  | set | front | back | ask | found | returned => rfl

theorem idle_of_call {n : Nat} (h : Step s (.call n) s') : s.point = .idle := by
  cases h with
  | call hn hp => exact hp

theorem point_of_returned {result : Except Errno Bytes} (h : Step s (.returned result) s') :
    s.point = .returning result := by
  cases h with
  | returned hp => exact hp

theorem point_of_failure (h : Step s a s') (ha : a.failure = some e) :
    s'.point = .returning (.error e) := by
  cases h.move with
  | failed hp hfail =>
    rw [hfail] at ha
    cases ha
    rfl
  | again hp hpass => exact Bool.noConfusion ((Action.isPassing_of_failure ha).symm.trans hpass)
  | finished hp hend => exact Bool.noConfusion ((Action.isEnd_of_failure ha).symm.trans hend)
  | set | front | back | ask | found | taken | returned => cases ha

-- The stop signal

theorem stop_eq (h : Step s a s') (ha : a.isSet = false) : s'.stop = s.stop := by
  cases h.move with
  | set half stop => cases ha
  | front | back | ask | found | again | finished | taken | failed | returned => rfl

theorem requested (h : Step s a s') (hr : s.stop.Requested) : s'.stop.Requested := by
  cases ha : a.isSet with
  | false => rwa [h.stop_eq ha]
  | true =>
    cases h with
    | set hset => exact hset.requested hr
    | _ => cases ha

theorem eq_signalled {wake : Wake} (h : Step s (.poll (.ok wake)) s') (hr : s.stop.Requested) :
    wake = .signalled := by
  cases h with
  | poll hp hw => exact (WakeupSignal.wakeOf_eq_signalled_iff hw).mpr hr

-- The terminal is not read any more, except by a call that has found output before.
theorem not_reading (h : Step s a s') (hr : s.stop.Requested) (hp : ∀ n, s.point ≠ .reading n) :
    a.isRead = false ∧ ∀ n, s'.point ≠ .reading n := by
  refine ⟨?_, ?_⟩
  · cases h with
    | read hq | readFailed e hq => exact False.elim (hp _ hq)
    | _ => rfl
  · cases h.move with
    | set half stop => exact hp
    | found hq => cases h.eq_signalled hr
    | front | back | ask | again | finished | taken | failed | returned => exact nofun

theorem requested_of_write (h : Step s (.set .write) s') : s'.stop.Requested := by
  cases h with
  | set hset =>
    cases hset with
    | write ho => exact WakeupSignal.readable_writeByte _

end Step

end TermBridge.OutputCalls
