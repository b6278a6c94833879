import TermBridge.Proofs.Wakeup.Watch

namespace TermBridge

namespace Plan

variable {plan noisy : Plan}

-- The second plan is the first one with interrupted calls put in, any number at any places.
inductive Interrupts : Plan → Plan → Prop where
  | nil : Interrupts [] []
  | same (e : Errno) {plan noisy : Plan} (h : Interrupts plan noisy) :
    Interrupts (e :: plan) (e :: noisy)
  | interruption {plan noisy : Plan} (h : Interrupts plan noisy) :
    Interrupts plan (Errno.interrupted :: noisy)

theorem Interrupts.settled_eq (h : plan.Interrupts noisy) : noisy.settled = plan.settled := by
  induction h with
  | nil => rfl
  | same e h ih =>
    by_cases he : e = Errno.interrupted
    · rw [he, settled_cons_interrupted, settled_cons_interrupted, ih]
    · rw [settled_cons_of_ne he, settled_cons_of_ne he, ih]
  | interruption h ih => rw [settled_cons_interrupted, ih]

-- A poll neither answers otherwise nor takes other outcomes than interruptions from the plan.
theorem poll_congr {α : Type} (ready : Option α) (h : noisy.settled = plan.settled) :
    (noisy.poll ready).1 = (plan.poll ready).1 ∧
      (noisy.poll ready).2.settled = (plan.poll ready).2.settled := by
  rw [poll_fst, poll_fst, settled_poll, settled_poll, h]
  exact ⟨rfl, rfl⟩

end Plan

namespace WakeupSignal

theorem drain_settled (plan : Plan) (s : WakeupSignal) :
    (drain plan.settled s).1 = (drain plan s).1 ∧
      (drain plan.settled s).2.settled = (drain plan s).2.settled := by
  induction plan generalizing s with
  | nil => exact ⟨rfl, rfl⟩
  | cons e rest ih =>
    by_cases he : e = Errno.interrupted
    · rw [he, Plan.settled_cons_interrupted]
      simpa [drain] using ih s
    · rw [Plan.settled_cons_of_ne he]
      have hsettled : (Plan.settled rest).settled = Plan.settled rest := by simp [Plan.settled]
      cases hpass : e.passes with
      | false => simp [drain, he, hpass, hsettled]
      | true =>
        by_cases hbytes : s.bytes = 0
        · simp [drain, he, hpass, hbytes, hsettled]
        · simpa [drain, he, hpass, hbytes] using ih s.readBytes

theorem reset_congr {plan noisy : Plan} (h : noisy.settled = plan.settled) (s : WakeupSignal) :
    (s.reset noisy).1 = (s.reset plan).1 ∧ (s.reset noisy).2.settled = (s.reset plan).2.settled := by
  have hnoisy := drain_settled noisy s
  have hplan := drain_settled plan s
  rw [h] at hnoisy
  exact ⟨congrArg clear (hnoisy.1.symm.trans hplan.1), hnoisy.2.symm.trans hplan.2⟩

end WakeupSignal

namespace Watch

variable {w noisy : Watch}

-- The two differ in interrupted calls to come, and in nothing else.
structure Alike (w noisy : Watch) : Prop where
  signal : noisy.signal = w.signal
  other : noisy.other = w.other
  polls : noisy.pollPlan.settled = w.pollPlan.settled
  reads : noisy.readPlan.settled = w.readPlan.settled

theorem Alike.poll (h : Alike w noisy) {α : Type} (ready : Option α) :
    Alike (w.poll (w.pollPlan.poll ready)) (noisy.poll (noisy.pollPlan.poll ready)) := by
  obtain ⟨hanswer, hplan⟩ := Plan.poll_congr ready h.polls
  cases hn : noisy.pollPlan.poll ready with
  | mk answer plan =>
    cases hw : w.pollPlan.poll ready with
    | mk answer' plan' =>
      rw [hn, hw] at hanswer hplan
      simp only at hanswer hplan
      subst hanswer
      cases answer with
      | blocked => exact h
      | ready value | failed e => exact ⟨h.signal, h.other, hplan, h.reads⟩

theorem Alike.perform (h : Alike w noisy) (operation : Operation) :
    (noisy.perform operation).1 = (w.perform operation).1 ∧
      Alike (w.perform operation).2 (noisy.perform operation).2 := by
  cases operation with
  | set => exact ⟨rfl, by simp [Watch.perform, h.signal], h.other, h.polls, h.reads⟩
  | reset =>
    obtain ⟨hsignal, hplan⟩ := WakeupSignal.reset_congr h.reads w.signal
    simp only [Watch.perform, h.signal]
    exact ⟨trivial, hsignal, h.other, h.polls, hplan⟩
  | wait =>
    simp only [Watch.perform, WakeupSignal.wait, h.signal, (Plan.poll_congr _ h.polls).1]
    exact ⟨trivial, h.poll _⟩
  | waitOrReadable =>
    simp only [Watch.perform, WakeupSignal.waitOrReadable, h.signal, h.other,
      (Plan.poll_congr _ h.polls).1]
    exact ⟨trivial, h.poll _⟩
  | writeOther => exact ⟨rfl, h.signal, by simp [Watch.perform, h.other], h.polls, h.reads⟩
  | closeOther => exact ⟨rfl, h.signal, by simp [Watch.perform, h.other], h.polls, h.reads⟩
  | readOther =>
    simp only [Watch.perform, h.other]
    exact ⟨trivial, h.signal, rfl, h.polls, h.reads⟩

theorem Alike.performAll (h : Alike w noisy) (operations : List Operation) :
    (noisy.performAll operations).1 = (w.performAll operations).1 ∧
      Alike (w.performAll operations).2 (noisy.performAll operations).2 := by
  induction operations generalizing w noisy with
  | nil => exact ⟨rfl, h⟩
  | cons operation rest ih =>
    obtain ⟨hanswer, hnext⟩ := h.perform operation
    obtain ⟨hanswers, hlast⟩ := ih hnext
    exact ⟨by simp only [Watch.performAll, hanswer, hanswers], hlast⟩

end Watch

end TermBridge
