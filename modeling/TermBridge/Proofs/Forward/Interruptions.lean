import TermBridge.Proofs.Forward.Input
import TermBridge.Proofs.Wakeup.Interruptions

namespace TermBridge

-- None of the calls fails for good.
def Plan.Harmless (plan : Plan) : Prop :=
  ∀ e ∈ plan, e.passes = true ∨ e = Errno.interrupted

namespace Plan

variable {plan noisy : Plan}

theorem Harmless.tail {e : Errno} (h : Harmless (e :: plan)) : plan.Harmless :=
  fun other hother => h other (List.mem_cons_of_mem e hother)

theorem Harmless.of_interrupts (h : plan.Harmless) (hi : plan.Interrupts noisy) : noisy.Harmless := by
  induction hi with
  | nil => exact h
  | same e hi ih =>
    intro other hother
    rcases List.mem_cons.mp hother with rfl | hother
    · exact h other List.mem_cons_self
    · exact ih h.tail other hother
  | interruption hi ih =>
    intro other hother
    rcases List.mem_cons.mp hother with rfl | hother
    · exact .inr rfl
    · exact ih h other hother

theorem Harmless.poll {α : Type} (h : plan.Harmless) (ready : Option α) :
    (plan.poll ready).1 = ready.elim .blocked .ready ∧ (plan.poll ready).2.Harmless := by
  induction plan with
  | nil => cases ready <;> exact ⟨rfl, h⟩
  | cons e rest ih =>
    by_cases he : e = Errno.interrupted
    · simpa [Plan.poll, he] using ih h.tail
    · have hpass : e.passes = true := (h e List.mem_cons_self).resolve_right he
      cases ready <;> simpa [Plan.poll, he, hpass] using h.tail

end Plan

namespace InputWorker

variable {w next : InputWorker}

-- A poll that cannot fail goes by what there is to wake the worker.
theorem poll_of_harmless (h : w.pollPlan.Harmless) :
    ∃ plan : Plan, plan.Harmless ∧ (w.pollPlan = [] → plan = []) ∧ w.poll =
      ((w.stop.wakeOf w.source.readable).elim .blocked .ready,
        { w with polling := (w.stop.wakeOf w.source.readable).isNone, pollPlan := plan }) := by
  obtain ⟨hanswer, hplan⟩ := h.poll (w.stop.wakeOf w.source.readable)
  unfold InputWorker.poll
  cases hpolling : w.polling with
  | true =>
    refine ⟨w.pollPlan, h, id, ?_⟩
    cases hwake : w.stop.wakeOf w.source.readable <;> simp [← hpolling]
  | false =>
    refine ⟨_, hplan, fun hnil => by rw [hnil]; rfl, ?_⟩
    simp only [WakeupSignal.waitOrReadable, Bool.false_eq_true, if_false]
    cases hp : w.pollPlan.poll (w.stop.wakeOf w.source.readable) with
    | mk answer left =>
      rw [hp] at hanswer
      simp only at hanswer
      subst hanswer
      cases w.stop.wakeOf w.source.readable <;> simp [← hpolling]

-- What a worker does after it has read once.
def afterRead : Forwarded × InputWorker → InputWorker
  | (.ended why, ended) => ended.finish why
  | (.again, next) => next.advance

-- What it does after it has polled.
def afterPoll : Waited Wake × InputWorker → InputWorker
  | (.blocked, polled) => polled
  | (.failed e, polled) => polled.finish (.pollFailed e)
  | (.ready .signalled, polled) => polled.finish .stopped
  | (.ready .readable, polled) => afterRead polled.forwardOnce

theorem advance_eq_afterPoll (hd : w.completion.done = false) : w.advance = afterPoll w.poll := by
  rw [InputWorker.advance, if_neg (by simp [hd])]
  split
  next polled hp => rw [hp, afterPoll]
  next e polled hp => rw [hp, afterPoll]
  next polled hp => rw [hp, afterPoll]
  next polled hp =>
    rw [hp, afterPoll]
    split
    next why ended hf => rw [hf, afterRead]
    next next hf => rw [hf, afterRead]

-- What comes of a round of a worker whose poll does not fail.
def round (w : InputWorker) : InputWorker :=
  match w.stop.wakeOf w.source.readable with
  | none => { w with polling := true }
  | some .signalled => finish { w with polling := false } .stopped
  | some .readable => afterRead (forwardOnce { w with polling := false })

theorem advance_of_harmless (hd : w.completion.done = false) (h : w.pollPlan.Harmless) :
    ∃ plan : Plan, plan.Harmless ∧ (w.pollPlan = [] → plan = []) ∧
      w.advance = round { w with pollPlan := plan } := by
  obtain ⟨plan, hplan, hnil, hpoll⟩ := poll_of_harmless h
  refine ⟨plan, hplan, hnil, ?_⟩
  rw [advance_eq_afterPoll hd, hpoll, round]
  cases hwake : w.stop.wakeOf w.source.readable with
  | none => rfl
  | some wake => cases wake <;> rfl

theorem advance_of_no_polls (hd : w.completion.done = false) (hnone : w.pollPlan = []) :
    w.advance = w.round := by
  obtain ⟨plan, -, hplan, hadvance⟩ := advance_of_harmless hd (by simp [Plan.Harmless, hnone])
  rw [hadvance, hplan hnone, ← hnone]

-- The worker that no poll fails for and no read is interrupted for.
def quiet (w : InputWorker) : InputWorker :=
  { w with pollPlan := [], readPlan := w.readPlan.settled }

theorem forwardWaiting_quiet (w : InputWorker) :
    w.quiet.forwardWaiting = (w.forwardWaiting.1, w.forwardWaiting.2.quiet) := by
  cases hb : w.source.broken with
  | some e => simp [forwardWaiting, quiet, hb]
  | none =>
    by_cases hempty : w.source.waiting.isEmpty = true
    · simp [forwardWaiting, quiet, hb, hempty]
    · simp only [forwardWaiting, quiet, hb, hempty]
      rfl

-- A read is interrupted, which changes nothing for the quiet worker, or the quiet one makes the same.
theorem forwardOnce_quiet (w : InputWorker) :
    (∃ next, w.forwardOnce = (.again, next) ∧ next.quiet = w.quiet) ∨
      w.quiet.forwardOnce = (w.forwardOnce.1, w.forwardOnce.2.quiet) := by
  cases hplan : w.readPlan with
  | nil =>
    right
    have hquiet := forwardWaiting_quiet { w with readPlan := [] }
    simpa [forwardOnce, quiet, hplan, Plan.next, Plan.settled] using hquiet
  | cons e rest =>
    by_cases he : e = Errno.interrupted
    · left
      refine ⟨{ w with readPlan := rest }, ?_, ?_⟩
      · have hpass : Errno.interrupted.passes = false := rfl
        simp [forwardOnce, hplan, Plan.next, he, hpass]
      · simp [quiet, hplan, he, Plan.settled_cons_interrupted]
    · right
      cases hpass : e.passes with
      | true =>
        have hquiet := forwardWaiting_quiet { w with readPlan := rest }
        simpa [forwardOnce, quiet, hplan, Plan.next, Plan.settled_cons_of_ne he, hpass] using hquiet
      | false =>
        simp [forwardOnce, quiet, hplan, Plan.next, Plan.settled_cons_of_ne he, hpass, he]

-- An interrupted read has the worker go back to a poll that finds what the last one has found.
theorem quiet_afterRead (hd : w.completion.done = false) (hpolling : w.polling = false)
    (hwake : w.stop.wakeOf w.source.readable = some .readable)
    (hagain : ∀ next, w.forwardOnce = (.again, next) → next.advance.quiet = next.quiet.advance) :
    (afterRead w.forwardOnce).quiet = afterRead w.quiet.forwardOnce := by
  rcases forwardOnce_quiet w with ⟨next, hf, hnext⟩ | hsame
  · have hround : w.quiet.round = afterRead w.quiet.forwardOnce := by
      simp only [round, quiet, hwake, ← hpolling]
    calc
      (afterRead w.forwardOnce).quiet = next.advance.quiet := by rw [hf, afterRead]
      _ = next.quiet.advance := hagain next hf
      _ = w.quiet.advance := by rw [hnext]
      _ = w.quiet.round := advance_of_no_polls hd rfl
      _ = afterRead w.quiet.forwardOnce := hround
  · rw [hsame]
    cases hf : w.forwardOnce with
    | mk outcome next =>
      cases outcome with
      | ended why => rfl
      | again => exact hagain next hf

-- By induction on the work left, which every read makes less.
theorem quiet_advance (h : w.pollPlan.Harmless) : w.advance.quiet = w.quiet.advance := by
  generalize hwork : w.work = work
  induction work using Nat.strongRecOn generalizing w with
  | ind work ih =>
    cases hd : w.completion.done with
    | true => rw [advance_of_done hd, advance_of_done (w := w.quiet) hd]
    | false =>
      obtain ⟨plan, hplan, -, hadvance⟩ := advance_of_harmless hd h
      have hquiet : w.quiet.advance = w.quiet.round := advance_of_no_polls hd rfl
      rw [hadvance, hquiet]
      cases hwake : w.stop.wakeOf w.source.readable with
      | none => simp [round, quiet, hwake]
      | some wake =>
        cases wake with
        | signalled => simp [round, quiet, hwake, finish]
        | readable =>
          simp only [round, quiet, hwake]
          refine quiet_afterRead (w := { w with polling := false, pollPlan := plan }) hd rfl hwake ?_
          intro next hf
          have hless := forwardOnce_work_lt { w with polling := false, pollPlan := plan } (by rw [hf])
          obtain ⟨sink, source, rest, hframe⟩ := forwardOnce_frame hf
          rw [hf] at hless
          refine ih next.work (hwork ▸ hless) ?_ rfl
          rw [hframe]
          exact hplan

theorem harmless_poll {answer : Waited Wake} (h : w.pollPlan.Harmless) (hp : w.poll = (answer, next)) :
    next.pollPlan.Harmless := by
  obtain ⟨plan, hplan, -, hpoll⟩ := poll_of_harmless h
  rw [hpoll] at hp
  obtain ⟨-, rfl⟩ := Prod.mk.inj hp
  exact hplan

theorem harmless_forwardOnce {outcome : Forwarded} (h : w.pollPlan.Harmless)
    (hf : w.forwardOnce = (outcome, next)) : next.pollPlan.Harmless := by
  obtain ⟨sink, source, plan, rfl⟩ := forwardOnce_frame hf
  exact h

theorem harmless_advance (h : w.pollPlan.Harmless) : w.advance.pollPlan.Harmless := by
  fun_induction InputWorker.advance w with
  | case1 w hd => exact h
  | case2 w hd polled hp | case3 w hd e polled hp | case4 w hd polled hp =>
    have hpolled := harmless_poll h hp
    exact hpolled
  | case5 w hd polled hp why ended hf =>
    have hended := harmless_forwardOnce (harmless_poll h hp) hf
    exact hended
  | case6 w hd polled hp next hf ih => exact ih (harmless_forwardOnce (harmless_poll h hp) hf)

theorem quiet_perform (h : w.pollPlan.Harmless) (action : Action) :
    (w.perform action).quiet = w.quiet.perform action ∧ (w.perform action).pollPlan.Harmless := by
  cases action with
  | write chunk =>
    rw [perform, perform, write, write]
    by_cases hidle : (w.completion.done || w.source.ended) = true
    · rw [if_pos hidle, if_pos (show (w.quiet.completion.done || w.quiet.source.ended) = true from hidle)]
      exact ⟨rfl, h⟩
    · rw [if_neg hidle, if_neg (show ¬(w.quiet.completion.done || w.quiet.source.ended) = true from hidle)]
      exact ⟨quiet_advance h, harmless_advance h⟩
  | close => exact ⟨quiet_advance h, harmless_advance h⟩
  | wait => exact ⟨rfl, h⟩
  | shutdown => exact ⟨quiet_advance h, harmless_advance h⟩

theorem quiet_performAll (h : w.pollPlan.Harmless) (actions : List Action) :
    (w.performAll actions).quiet = w.quiet.performAll actions := by
  induction actions generalizing w with
  | nil => rfl
  | cons action rest ih =>
    obtain ⟨hquiet, hharmless⟩ := quiet_perform h action
    calc
      ((w.perform action).performAll rest).quiet = (w.perform action).quiet.performAll rest := ih hharmless
      _ = (w.quiet.perform action).performAll rest := by rw [hquiet]

-- Both workers of such a pair are, without the interruptions, the same quiet one.
theorem quiet_interrupted {polls polls' reads reads' : Plan} (hpolls : polls.Interrupts polls')
    (hreads : reads.Interrupts reads') (hharmless : polls.Harmless) (w : InputWorker)
    (actions : List Action) :
    ((start { w with pollPlan := polls', readPlan := reads' }).performAll actions).quiet =
      ((start { w with pollPlan := polls, readPlan := reads }).performAll actions).quiet := by
  have hharmless' : polls'.Harmless := hharmless.of_interrupts hpolls
  calc
    _ = (start { w with pollPlan := polls', readPlan := reads' }).quiet.performAll actions :=
      quiet_performAll (harmless_advance hharmless') actions
    _ = (start { w with pollPlan := [], readPlan := reads'.settled }).performAll actions := by
      rw [start, quiet_advance hharmless']
      rfl
    _ = (start { w with pollPlan := [], readPlan := reads.settled }).performAll actions := by
      rw [hreads.settled_eq]
    _ = (start { w with pollPlan := polls, readPlan := reads }).quiet.performAll actions := by
      rw [start, start, quiet_advance hharmless]
      rfl
    _ = ((start { w with pollPlan := polls, readPlan := reads }).performAll actions).quiet :=
      (quiet_performAll (harmless_advance hharmless) actions).symm

end InputWorker

end TermBridge
