import TermBridge.Proofs.EventLoop.Sizes

namespace TermBridge

namespace WakeupSignal

variable {s : WakeupSignal}

theorem setTimes_of_pending (h : s.pending = true) (n : Nat) : s.setTimes n = s := by
  induction n with
  | zero => rfl
  | succ n ih => rw [setTimes, set_of_pending h, ih]

-- The first set raises the flag, and those behind it find it up.
theorem setTimes_of_pos {n : Nat} (h : 0 < n) : s.setTimes n = s.set := by
  obtain ⟨m, rfl⟩ : ∃ m, n = m + 1 := ⟨n - 1, by omega⟩
  exact setTimes_of_pending (pending_set s) m

end WakeupSignal

namespace EventLoop

theorem State.wake_eq (s : State) (signals : Nat) : s.wake signals = { s with wakeup := s.wakeup.set } := by
  rw [wake, WakeupSignal.setTimes_of_pos (Nat.le_max_left 1 signals)]

theorem State.query_signals (s : State) (step : Step) (signals : Nat) :
    s.query { step with signals := signals } = s.query step := by
  simp only [query, wake_eq]

-- Two runs that differ in how often the signal is set are in the same state throughout, the signal included.
theorem running_signals (s : State) (steps : List Step) (signals : Nat → Nat) :
    running s (steps.mapIdx fun k step => { step with signals := signals k }) = running s steps := by
  induction steps generalizing s signals with
  | nil => rfl
  | cons step rest ih =>
    rw [List.mapIdx_cons, running, running]
    cases s.awaken with
    | mk failure awake =>
      cases failure with
      | some e => rfl
      | none => simp only [State.query_signals, ih]

theorem Script.start_eq (script : Script) :
    script.start = {
      present := script.present
      completed := script.done
      wakeup := WakeupSignal.fresh.set
      size := script.opening
      sessionSize := script.opening
      pollPlan := script.pollPlan } :=
  State.wake_eq _ script.signals

theorem run_signals (script : Script) (signals : Nat) (others : Nat → Nat)
    (restored : Except RestoreError Unit) :
    run { script with
      signals := signals
      steps := script.steps.mapIdx fun k step => { step with signals := others k } } restored =
      run script restored := by
  let changed : Script := { script with
    signals := signals
    steps := script.steps.mapIdx fun k step => { step with signals := others k } }
  have hstart : changed.start = script.start := by
    rw [Script.start_eq, Script.start_eq]
    rfl
  have hrunning : running changed.start changed.steps = running script.start script.steps := by
    rw [hstart]
    exact running_signals script.start script.steps others
  change run changed restored = run script restored
  unfold run
  rw [hrunning]

theorem Iteration.wakeup_after {it : Iteration} (h : it.asleep.awaken.1 = none) :
    it.after.wakeup = WakeupSignal.fresh.set := by
  obtain ⟨plan, -, hafter⟩ := it.after_eq h
  rw [hafter]
  exact WakeupSignal.setTimes_of_pos (Nat.le_max_left 1 it.step.signals)

-- The loop never falls asleep before a signal that has been cleared and not set again.
theorem wakeup_asleep {s : State} (h : s.wakeup = WakeupSignal.fresh.set) {steps : List Step} {it : Iteration}
    (hit : it ∈ iterations s steps) : it.asleep.wakeup = WakeupSignal.fresh.set := by
  induction steps generalizing s with
  | nil => simp [iterations] at hit
  | cons step rest ih =>
    cases hawake : s.awaken.1 with
    | some e => simp [iterations_of_failed hawake] at hit
    | none =>
      rw [iterations_cons hawake, List.mem_cons] at hit
      rcases hit with rfl | hit
      · exact h
      · split at hit
        · simp at hit
        · exact ih (Iteration.wakeup_after hawake) hit

theorem finds_eq_true_iff {present completed : List WorkerName} :
    finds present completed = true ↔ ∃ worker ∈ present, worker ∈ completed := by
  simp [finds]

-- What becomes of one iteration: the loop is woken by the signal, clears it, and asks once.
theorem Script.iteration_asks_once (script : Script) {it : Iteration} (hit : it ∈ script.iterations) :
    it.asleep.wakeup.readable = true ∧ it.asleep.awaken.1 = none ∧ it.awake.wakeup = .fresh ∧
      ∃ request : Option TerminalSize,
        it.after.log = it.asleep.log ++ .querySize :: request.toList.map .setSize := by
  have hstart : script.start.wakeup = WakeupSignal.fresh.set := by rw [start_eq]
  obtain ⟨k, hk⟩ := List.getElem?_of_mem hit
  obtain ⟨-, hpassed, -⟩ := iterations_getElem? hk
  refine ⟨?_, hpassed, ?_, ?_⟩
  · rw [wakeup_asleep hstart hit]
    exact WakeupSignal.readable_set WakeupSignal.sound_fresh
  · obtain ⟨plan, -, hawake⟩ := State.awaken_eq hpassed
    rw [Iteration.awake, hawake]
  · obtain ⟨plan, -, hafter⟩ := it.after_eq hpassed
    exact ⟨change? it.asleep.size it.step.size, by rw [hafter, sizing]⟩

-- The loop asks once for each wake-up, and leaves behind the first query that finds one of its workers
-- complete, or at the first wait before it that fails otherwise than by an interruption. A worker that it
-- does not have counts for nothing, and nor does how often it was woken.
theorem run_queries_until_complete (script : Script) (restored : Except RestoreError Unit) :
    let workers : List WorkerName :=
      if script.errorWorker then [.input, .output, .error] else [.input, .output]
    let complete (k : Nat) : Prop :=
      ∃ worker ∈ workers, worker ∈ script.done ++ (script.answered.take k).flatMap Step.done
    let failure (k : Nat) : Option Errno := script.pollPlan.settled.failureAt k
    let queries := (run script restored).2.count .querySize
    (queries = script.iterations.length ∧
      ∀ it ∈ script.iterations,
        it.asleep.wakeup.readable = true ∧ it.asleep.awaken.1 = none ∧ it.awake.wakeup = .fresh ∧
        ∃ request : Option TerminalSize,
          it.after.log = it.asleep.log ++ .querySize :: request.toList.map .setSize) ∧
    (∀ k < queries, failure k = none) ∧
    (∀ k, 0 < k → k < queries → ¬ complete k) ∧
    (0 < queries ∧ complete queries ∧ (∀ err, (run script restored).1 ≠ .error (.wait err)) ∨
      ∃ e, failure queries = some e ∧ (0 < queries → ¬ complete queries) ∧
        (restored = .ok () → (run script restored).1 = .error (.wait (.wait e)))) ∧
    ∀ (signals : Nat) (others : Nat → Nat),
      run { script with
        signals := signals
        steps := script.steps.mapIdx fun k step => { step with signals := others k } } restored =
        run script restored := by
  intro workers complete failure queries
  have hworkers : script.present = workers := by
    cases he : script.errorWorker <;> simp [Script.present, workers, he]
  have hcomplete : ∀ k, finds script.present
      (script.done ++ (script.answered.take k).flatMap Step.done) = true ↔ complete k := by
    intro k
    rw [finds_eq_true_iff, hworkers]
  have hearlier : ∀ k, 0 < k → k < script.rounds → ¬ complete k := by
    intro k hpos hk
    rw [← hcomplete, Bool.not_eq_true]
    exact not_finds_of_lt_rounds script.present script.done script.steps hpos hk
  have hqueries : queries = script.queries := script.count_queries restored
  have hends := Plan.passing_cases script.rounds script.pollPlan.settled
  have hrounds : script.queries ≤ script.rounds := by
    rcases hends with ⟨hall, -⟩ | ⟨hlt, -⟩
    · exact Nat.le_of_eq hall
    · exact Nat.le_of_lt hlt
  refine ⟨⟨?_, fun it => script.iteration_asks_once⟩, ?_, ?_, ?_, ?_⟩
  · rw [hqueries, script.length_iterations]
  · intro k hk
    rw [hqueries] at hk
    exact Plan.failureAt_of_lt_passing hk
  · intro k hpos hk
    exact hearlier k hpos (by omega)
  · rw [hqueries, run_eq]
    rcases hends with ⟨hall, hnone⟩ | ⟨hlt, e, hfails, hfirst⟩
    · refine .inl ⟨?_, ?_, ?_⟩
      · rw [Script.queries, hall]
        exact Nat.succ_pos _
      · rw [← hcomplete, Script.queries, hall]
        exact finds_rounds (by simp [Script.present]) script.done script.steps
      · exact Script.answer_ne_wait hnone restored
    · refine .inr ⟨e, hfails, fun hpos => hearlier _ hpos hlt, ?_⟩
      rintro rfl
      exact Script.answer_of_failed hfirst
  · intro signals others
    exact run_signals script signals others restored

end EventLoop

end TermBridge
