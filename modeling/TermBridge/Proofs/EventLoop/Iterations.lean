import TermBridge.Proofs.EventLoop.Teardown

namespace TermBridge

namespace Plan

-- How the call with number `k` fails, counted from zero, if it does.
def failureAt (plan : Plan) (k : Nat) : Option Errno :=
  (next (plan.drop k)).1

theorem failureAt_succ (plan : Plan) (k : Nat) : plan.failureAt (k + 1) = failureAt (plan.drop 1) k := by
  rw [failureAt, failureAt, List.drop_drop, Nat.add_comm]

-- How many of the next `n` calls come before the first that fails.
def passing (n : Nat) (plan : Plan) : Nat :=
  ((plan.take n).findIdx? fun e => !e.passes).getD n

theorem passing_zero (plan : Plan) : plan.passing 0 = 0 := rfl

theorem passing_succ (n : Nat) (plan : Plan) :
    plan.passing (n + 1) = if plan.next.1.isSome then 0 else passing n (plan.drop 1) + 1 := by
  cases plan with
  | nil => simp [passing, next]
  | cons e rest =>
    cases hpass : e.passes with
    | false => simp [passing, next, hpass, List.findIdx?_cons]
    | true =>
      simp only [passing, next, hpass, List.take_succ_cons, List.findIdx?_cons, List.drop_one,
        List.tail_cons]
      cases (rest.take n).findIdx? fun e => !e.passes <;> simp

theorem failureAt_of_lt_passing {n k : Nat} {plan : Plan} (h : k < plan.passing n) :
    plan.failureAt k = none := by
  induction n generalizing k plan with
  | zero => simp [passing_zero] at h
  | succ n ih =>
    rw [passing_succ] at h
    cases hnext : plan.next.1 with
    | some e => simp [hnext] at h
    | none =>
      cases k with
      | zero => exact hnext
      | succ k =>
        simp only [hnext, Option.isSome_none, Bool.false_eq_true, if_false, Nat.add_lt_add_iff_right] at h
        rw [failureAt_succ, ih h]

theorem passing_cases (n : Nat) (plan : Plan) :
    (plan.passing n = n ∧ plan.firstFailure n = none) ∨
      plan.passing n < n ∧
        ∃ e, plan.failureAt (plan.passing n) = some e ∧ plan.firstFailure n = some e := by
  induction n generalizing plan with
  | zero => exact .inl ⟨rfl, rfl⟩
  | succ n ih =>
    rw [passing_succ, firstFailure_succ]
    cases hnext : plan.next.1 with
    | some e => exact .inr ⟨Nat.zero_lt_succ n, e, hnext, rfl⟩
    | none =>
      rcases ih (plan.drop 1) with ⟨hall, hnone⟩ | ⟨hlt, e, hfails, hfirst⟩
      · exact .inl ⟨congrArg (· + 1) hall, hnone⟩
      · exact .inr ⟨Nat.succ_lt_succ hlt, e, (failureAt_succ plan _).trans hfails, hfirst⟩

end Plan

namespace EventLoop

-- An iteration whose wait does not fail: the state in which the loop falls asleep, and what its query meets.
structure Iteration where
  asleep : State
  step : Step

namespace Iteration

def awake (it : Iteration) : State :=
  it.asleep.awaken.2

-- The state at its end.
def after (it : Iteration) : State :=
  it.awake.query it.step

theorem after_eq (it : Iteration) (h : it.asleep.awaken.1 = none) :
    ∃ plan, plan.settled = it.asleep.pollPlan.settled.drop 1 ∧
      it.after = { it.asleep with
        completed := it.asleep.completed ++ it.step.done
        refusing := it.step.refuse
        wakeup := WakeupSignal.fresh.setTimes (max 1 it.step.signals)
        pollPlan := plan
        size := it.step.size.getD it.asleep.size
        sessionSize := if it.step.refuse then it.asleep.sessionSize
          else (change? it.asleep.size it.step.size).getD it.asleep.sessionSize
        log := it.asleep.log ++ sizing it.asleep.size it.step.size } := by
  obtain ⟨plan, hplan, hawake⟩ := State.awaken_eq h
  exact ⟨plan, hplan, by rw [after, awake, hawake, State.query_eq]⟩

end Iteration

-- The iterations that the loop makes from a state on, as long as no wait fails and no worker is complete.
def iterations (s : State) : List Step → List Iteration
  | [] => []
  | step :: rest =>
    if s.awaken.1.isSome then []
    else
      let it : Iteration := ⟨s, step⟩
      it :: if it.after.anyComplete then [] else iterations it.after rest

theorem iterations_of_failed {s : State} {e : Errno} (h : s.awaken.1 = some e) (steps : List Step) :
    iterations s steps = [] := by
  cases steps <;> simp [iterations, h]

theorem iterations_cons {s : State} (h : s.awaken.1 = none) (step : Step) (rest : List Step) :
    iterations s (step :: rest) =
      ⟨s, step⟩ :: if finds s.present (s.completed ++ step.done) then []
        else iterations (Iteration.mk s step).after rest := by
  obtain ⟨plan, -, hafter⟩ := Iteration.after_eq ⟨s, step⟩ h
  have hcomplete : (Iteration.mk s step).after.anyComplete = finds s.present (s.completed ++ step.done) := by
    rw [anyComplete_eq_finds, hafter]
  simp [iterations, h, hcomplete]

theorem length_iterations_le (s : State) (steps : List Step) : (iterations s steps).length ≤ steps.length := by
  fun_induction iterations s steps with
  | case1 s => exact Nat.le_refl 0
  | case2 s step rest hfailed => exact Nat.zero_le _
  | case3 s step rest hpassed it ih =>
    apply Nat.succ_le_succ
    split
    · exact Nat.zero_le _
    · exact ih

-- The state that some iterations lead to.
def reachedBy (s : State) (its : List Iteration) : State :=
  (its.getLast?.map Iteration.after).getD s

theorem reachedBy_cons (s : State) (it : Iteration) (rest : List Iteration) :
    reachedBy s (it :: rest) = reachedBy it.after rest := by
  rw [reachedBy, List.getLast?_cons]
  cases h : rest.getLast? <;> simp [reachedBy, h]

theorem reachedBy_concat (s : State) (its : List Iteration) (it : Iteration) :
    reachedBy s (its ++ [it]) = it.after := by
  simp [reachedBy]

-- Each iteration begins where those before it have led to.
theorem iterations_getElem? {s : State} {steps : List Step} {k : Nat} {it : Iteration}
    (h : (iterations s steps)[k]? = some it) :
    steps[k]? = some it.step ∧ it.asleep.awaken.1 = none ∧
      it.asleep = reachedBy s ((iterations s steps).take k) := by
  induction steps generalizing s k with
  | nil => simp [iterations] at h
  | cons step rest ih =>
    cases hawake : s.awaken.1 with
    | some e => simp [iterations_of_failed hawake] at h
    | none =>
      rw [iterations_cons hawake] at h ⊢
      cases k with
      | zero =>
        simp only [List.getElem?_cons_zero, Option.some.injEq] at h
        subst h
        exact ⟨rfl, hawake, rfl⟩
      | succ k =>
        rw [List.getElem?_cons_succ] at h
        cases hfinds : finds s.present (s.completed ++ step.done) with
        | true => simp [hfinds] at h
        | false =>
          rw [hfinds] at h
          obtain ⟨hstep, hpassed, hasleep⟩ := ih h
          refine ⟨hstep, hpassed, ?_⟩
          rw [if_neg Bool.false_ne_true, List.take_succ_cons, reachedBy_cons, hasleep]

-- The iterations lead to the state at the end of a run. The wait behind them may fail, which changes the
-- outcomes to come.
theorem running_eq_reachedBy (s : State) (steps : List Step) :
    ∃ plan wakeup, (running s steps).2 =
      { reachedBy s (iterations s (steps ++ [Step.last])) with pollPlan := plan, wakeup := wakeup } := by
  induction steps generalizing s with
  | nil =>
    cases hawake : s.awaken.1 with
    | some e =>
      obtain ⟨plan, wakeup, -, hawaken⟩ := s.awaken_cases
      exact ⟨plan, wakeup, by rw [running_of_failed hawake, iterations_of_failed hawake, hawaken]; rfl⟩
    | none =>
      rw [running_nil hawake, List.nil_append, iterations_cons hawake, iterations, ite_self]
      exact ⟨_, _, rfl⟩
  | cons step rest ih =>
    cases hawake : s.awaken.1 with
    | some e =>
      obtain ⟨plan, wakeup, -, hawaken⟩ := s.awaken_cases
      exact ⟨plan, wakeup, by rw [running_of_failed hawake, iterations_of_failed hawake, hawaken]; rfl⟩
    | none =>
      rw [running_cons hawake, List.cons_append, iterations_cons hawake]
      cases hfinds : finds s.present (s.completed ++ step.done) with
      | true => exact ⟨_, _, rfl⟩
      | false =>
        rw [if_neg Bool.false_ne_true, if_neg Bool.false_ne_true, reachedBy_cons]
        exact ih (Iteration.mk s step).after

-- There are as many iterations as there are rounds, if no wait fails before.
theorem length_iterations (s : State) (steps : List Step) :
    (iterations s (steps ++ [Step.last])).length =
      s.pollPlan.settled.passing (rounds s.present s.completed steps) := by
  induction steps generalizing s with
  | nil =>
    rw [rounds_nil, Plan.passing_succ, ← State.awaken_fst]
    cases hawake : s.awaken.1 with
    | some e => rw [iterations_of_failed hawake]; rfl
    | none => simp [iterations_cons hawake, iterations, Plan.passing_zero]
  | cons step rest ih =>
    rw [rounds_cons]
    cases hawake : s.awaken.1 with
    | some e =>
      rw [iterations_of_failed hawake]
      split <;> rw [Plan.passing_succ, ← State.awaken_fst, hawake] <;> rfl
    | none =>
      rw [List.cons_append, iterations_cons hawake]
      cases hfinds : finds s.present (s.completed ++ step.done) with
      | true => simp [Plan.passing_succ, ← State.awaken_fst, hawake, Plan.passing_zero]
      | false =>
        obtain ⟨plan, hplan, hafter⟩ := Iteration.after_eq ⟨s, step⟩ hawake
        simp only [Bool.false_eq_true, if_false, List.length_cons, ih, Plan.passing_succ,
          ← State.awaken_fst, hawake, Option.isSome_none]
        rw [hafter, ← hplan]

theorem finds_rounds {present : List WorkerName} (h : .input ∈ present) (completed : List WorkerName)
    (steps : List Step) :
    finds present (completed ++
      ((steps ++ [Step.last]).take (rounds present completed steps)).flatMap Step.done) = true := by
  induction steps generalizing completed with
  | nil =>
    simp only [finds, List.any_eq_true, List.contains_iff_mem]
    exact ⟨.input, h, List.mem_append_right _ (List.mem_singleton.mpr rfl)⟩
  | cons step rest ih =>
    rw [rounds_cons]
    cases hfinds : finds present (completed ++ step.done) with
    | true => simpa using hfinds
    | false => simpa [List.append_assoc] using ih (completed ++ step.done)

theorem not_finds_of_lt_rounds (present completed : List WorkerName) (steps : List Step) {k : Nat}
    (hpos : 0 < k) (hk : k < rounds present completed steps) :
    finds present (completed ++ ((steps ++ [Step.last]).take k).flatMap Step.done) = false := by
  induction steps generalizing completed k with
  | nil =>
    rw [rounds_nil] at hk
    omega
  | cons step rest ih =>
    rw [rounds_cons] at hk
    cases hfinds : finds present (completed ++ step.done) with
    | true =>
      simp only [hfinds, if_true] at hk
      omega
    | false =>
      simp only [hfinds, Bool.false_eq_true, if_false] at hk
      obtain ⟨k, rfl⟩ : ∃ j, k = j + 1 := ⟨k - 1, by omega⟩
      cases k with
      | zero => simpa using hfinds
      | succ k => simpa [List.append_assoc] using ih (completed ++ step.done) (by omega) (by omega)

namespace Script

-- What the queries of a run meet, as far as it makes them.
def answered (script : Script) : List Step :=
  script.steps ++ [Step.last]

def iterations (script : Script) : List Iteration :=
  EventLoop.iterations script.start script.answered

def queries (script : Script) : Nat :=
  script.pollPlan.settled.passing script.rounds

theorem length_iterations (script : Script) : script.iterations.length = script.queries :=
  EventLoop.length_iterations script.start script.steps

end Script

end EventLoop

end TermBridge
