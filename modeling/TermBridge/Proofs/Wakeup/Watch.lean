import TermBridge.Proofs.Wakeup.Operations
import TermBridge.Wakeup.Watch

namespace TermBridge

namespace WakeupSignal

variable {s next : WakeupSignal} {plan rest : Plan} {answer : ReadAnswer}

-- Draining is reading until a read gives neither bytes nor an interruption.
theorem drain_of_read (h : s.read plan = (answer, next, rest)) :
    drain plan s = if answer.goesOn then drain rest next else (next, rest) := by
  cases plan with
  | nil =>
    simp only [read, Plan.next] at h
    split at h <;> cases h
    next hempty => simp [ReadAnswer.goesOn, drain, ← hempty]
    next => simp [ReadAnswer.goesOn, drain, readBytes]
  | cons e plan =>
    cases hpass : e.passes with
    | true =>
      have hne : e ≠ Errno.interrupted := by
        rintro rfl
        exact Bool.noConfusion hpass
      simp only [read, Plan.next, hpass, if_true] at h
      split at h <;> cases h
      next hempty => simp [ReadAnswer.goesOn, drain, hne, hpass, hempty]
      next hbytes => simp [ReadAnswer.goesOn, drain, hne, hpass, hbytes]
    | false =>
      simp only [read, Plan.next, hpass, Bool.false_eq_true, if_false] at h
      cases h
      simp [ReadAnswer.goesOn, drain, hpass]

theorem bytes_read (h : s.read plan = (answer, next, rest)) :
    next.bytes + answer.bytes = s.bytes := by
  unfold read at h
  split at h
  · cases h
    rfl
  · split at h
    · cases h
      rfl
    · cases h
      simp only [readBytes, ReadAnswer.bytes]
      omega

theorem bytes_of_read_empty (h : s.read plan = (.empty, next, rest)) : next.bytes = 0 := by
  unfold read at h
  split at h
  · cases h
  next plan' hnext =>
    split at h
    next hempty =>
      cases h
      exact hempty
    next => cases h

theorem reads_of_read (h : s.read plan = (answer, next, rest)) :
    s.reads plan = answer :: if answer.goesOn then next.reads rest else [] := by
  rw [reads]
  split
  next answer' next' rest' h' =>
    rw [h] at h'
    cases h'
    simp

-- What a draining has not read stays in the pipe.
theorem bytes_drain (s : WakeupSignal) (plan : Plan) :
    (drain plan s).1.bytes + ReadAnswer.total (s.reads plan) = s.bytes := by
  induction s, plan using reads.induct with
  | case1 s plan answer next rest h ih =>
    have hread := bytes_read h
    rw [drain_of_read h, reads_of_read h]
    cases hg : answer.goesOn with
    | true =>
      have hrest := ih hg
      simp only [if_true, ReadAnswer.total]
      omega
    | false => exact hread

-- Only a failure that is not an interruption ends a draining before the pipe is empty.
theorem drain_empties {s : WakeupSignal} {plan : Plan}
    (h : ∀ e, .failed e ∈ s.reads plan → e = Errno.interrupted) : (drain plan s).1.bytes = 0 := by
  induction s, plan using reads.induct with
  | case1 s plan answer next rest hread ih =>
    rw [reads_of_read hread] at h
    rw [drain_of_read hread]
    cases hg : answer.goesOn with
    | true =>
      rw [hg, if_pos rfl] at h
      exact ih hg fun e he => h e (List.mem_cons_of_mem _ he)
    | false =>
      cases answer with
      | took bytes => exact Bool.noConfusion hg
      | failed e =>
        have he := h e List.mem_cons_self
        simp [ReadAnswer.goesOn, he] at hg
      | empty => exact bytes_of_read_empty hread

theorem sound_reset (s : WakeupSignal) (plan : Plan) : (s.reset plan).1.Sound :=
  fun h => False.elim (Bool.false_ne_true h)

theorem wakeOf_eq_signalled_iff {otherReadable : Bool} {wake : Wake}
    (h : s.wakeOf otherReadable = some wake) : wake = .signalled ↔ s.readable = true := by
  unfold wakeOf at h
  cases hr : s.readable with
  | true => simpa [hr, eq_comm] using h
  | false =>
    cases otherReadable with
    | true =>
      simp only [hr, Bool.false_eq_true, if_false, if_true, Option.some.injEq] at h
      simp [← h]
    | false => simp [hr] at h

theorem readable_of_wakeOf {otherReadable : Bool} (h : s.wakeOf otherReadable = some .readable) :
    otherReadable = true := by
  unfold wakeOf at h
  split at h
  · cases h
  · split at h
    next hother => exact hother
    next => cases h

end WakeupSignal

namespace Plan

variable {α : Type} {ready : Option α} {plan : Plan}

theorem eq_some_of_poll {value : α} (h : (plan.poll ready).1 = .ready value) : ready = some value := by
  rw [poll_fst] at h
  split at h
  · cases h
  · cases ready <;> simp_all

theorem eq_none_of_poll (h : (plan.poll ready).1 = .blocked) : ready = none := by
  rw [poll_fst] at h
  split at h
  · cases h
  · cases ready <;> simp_all

theorem poll_ne_blocked {value : α} : (plan.poll (some value)).1 ≠ .blocked :=
  fun h => Option.some_ne_none value (eq_none_of_poll h)

end Plan

namespace Watch

variable {w : Watch}

theorem signal_poll {α : Type} (w : Watch) (result : Waited α × Plan) :
    (w.poll result).signal = w.signal := by
  unfold poll
  split <;> rfl

-- Only setting and resetting touch the signal.
theorem sound_perform (h : w.signal.Sound) (operation : Operation) :
    (w.perform operation).2.signal.Sound := by
  cases operation with
  | set => exact WakeupSignal.sound_set h
  | reset => exact WakeupSignal.sound_reset w.signal w.readPlan
  | wait | waitOrReadable =>
    simp only [perform, signal_poll]
    exact h
  | writeOther | closeOther | readOther => exact h

theorem sound_performAll (h : w.signal.Sound) (operations : List Operation) :
    (w.performAll operations).2.signal.Sound := by
  induction operations generalizing w with
  | nil => exact h
  | cons operation rest ih => exact ih (sound_perform h operation)

-- In every state that operations lead to, whichever of the polls and reads fail. A reset that fails leaves
-- the flag down while bytes are left, but a flag that is up always has a byte: a set that finds it up has
-- nothing to do, and one that finds it down writes.
theorem set_is_noticed (polls reads : Plan) (operations : List Operation) :
    let w := (({ pollPlan := polls, readPlan := reads } : Watch).performAll operations).2
    let set := (w.perform .set).2
    let reset := (w.perform .reset).2
    let draining := w.signal.reads w.readPlan
    (w.signal.pending = true → w.signal.readable = true) ∧
      set.signal.readable = true ∧
      ((∀ e, .failed e ∈ draining → e = Errno.interrupted) → reset.signal = .fresh) ∧
      reset.signal.pending = false ∧
      reset.signal.bytes + WakeupSignal.ReadAnswer.total draining = w.signal.bytes ∧
      (∀ more, ((reset.performAll more).2.perform .set).2.signal.readable = true) ∧
      (w.perform .wait).2.signal = w.signal ∧
      (w.perform .waitOrReadable).2.signal = w.signal ∧
      (∀ wake, (w.perform .waitOrReadable).1 = .woken (.ready wake) →
        (wake = .signalled ↔ w.signal.readable = true)) ∧
      (w.signal.readable = true → (w.perform .wait).1 ≠ .waited .blocked ∧
        (w.perform .waitOrReadable).1 ≠ .woken .blocked) := by
  intro w set reset draining
  have hsound : w.signal.Sound := sound_performAll WakeupSignal.sound_fresh operations
  refine ⟨hsound, WakeupSignal.readable_set hsound, fun hfailed => ?_, rfl,
    WakeupSignal.bytes_drain w.signal w.readPlan, fun more => ?_, signal_poll _ _, signal_poll _ _,
    fun wake hwake => ?_, fun hreadable => ⟨?_, ?_⟩⟩
  · have hbytes : (WakeupSignal.drain w.readPlan w.signal).1.bytes = 0 :=
      WakeupSignal.drain_empties hfailed
    simp [reset, perform, WakeupSignal.reset, WakeupSignal.clear, WakeupSignal.fresh, hbytes]
  · exact WakeupSignal.readable_set (sound_performAll (sound_perform hsound .reset) more)
  · simp only [perform, Answer.woken.injEq] at hwake
    exact WakeupSignal.wakeOf_eq_signalled_iff (Plan.eq_some_of_poll hwake)
  · simp only [perform, WakeupSignal.wait, hreadable, if_true, ne_eq, Answer.waited.injEq]
    exact Plan.poll_ne_blocked
  · simp only [perform, WakeupSignal.waitOrReadable, WakeupSignal.wakeOf, hreadable, if_true, ne_eq,
      Answer.woken.injEq]
    exact Plan.poll_ne_blocked

-- Two resets fail and leave a byte each; the third is interrupted once and takes both.
example :
    let w := (({ readPlan := [Errno.badDescriptor, Errno.badDescriptor, Errno.interrupted] } :
      Watch).performAll [.set, .reset, .set, .reset]).2
    w.signal = ⟨false, 2⟩ ∧ (w.performAll [.reset]).2.signal = .fresh := by
  decide

end Watch

end TermBridge
