import TermBridge.Proofs.EventLoop.Teardown
import TermBridge.Proofs.Wakeup.Interruptions

namespace TermBridge.EventLoop

namespace State

variable {s noisy : State}

-- The two differ in interrupted waits to come, and in nothing else.
def Alike (s noisy : State) : Prop :=
  ∃ polls : Plan, noisy = { s with pollPlan := polls } ∧ polls.settled = s.pollPlan.settled

theorem Alike.awaken (h : Alike s noisy) :
    noisy.awaken.1 = s.awaken.1 ∧ Alike s.awaken.2 noisy.awaken.2 := by
  obtain ⟨polls, rfl, hpolls⟩ := h
  obtain ⟨hanswer, hplan⟩ := Plan.poll_congr (if s.wakeup.readable then some () else none) hpolls
  unfold State.awaken WakeupSignal.wait
  dsimp only
  cases hn : polls.poll (if s.wakeup.readable then some () else none) with
  | mk answer left =>
    cases hs : s.pollPlan.poll (if s.wakeup.readable then some () else none) with
    | mk answer' left' =>
      rw [hn, hs] at hanswer hplan
      simp only at hanswer hplan
      subst hanswer
      cases answer with
      | failed e | ready value | blocked => exact ⟨rfl, left, rfl, hplan⟩

theorem resize_setPolls (s : State) (polls : Plan) (size : Option TerminalSize) :
    ({ s with pollPlan := polls } : State).resize size = { s.resize size with pollPlan := polls } := by
  cases size with
  | none => rfl
  | some size => by_cases hsize : size = s.size <;> simp [resize, hsize]

theorem Alike.query (h : Alike s noisy) (step : Step) : Alike (s.query step) (noisy.query step) := by
  obtain ⟨polls, rfl, hpolls⟩ := h
  let queried : State :=
    { s with completed := s.completed ++ step.done, refusing := step.refuse, log := s.log ++ [.querySize] }
  refine ⟨polls, ?_, by rw [pollPlan_query, hpolls]⟩
  exact resize_setPolls (queried.wake step.signals) polls step.size

theorem Alike.anyComplete (h : Alike s noisy) : noisy.anyComplete = s.anyComplete := by
  obtain ⟨polls, rfl, -⟩ := h
  rfl

end State

open State

-- When they awake both have failed, or both query; then both have found a worker complete, or both go on.
theorem running_alike {s noisy : State} (h : Alike s noisy) (steps : List Step) :
    (running noisy steps).1 = (running s steps).1 ∧
      Alike (running s steps).2 (running noisy steps).2 := by
  induction steps generalizing s noisy with
  | nil =>
    obtain ⟨hanswer, hawake⟩ := h.awaken
    unfold EventLoop.running
    cases hs : s.awaken with
    | mk failure awake =>
      cases hn : noisy.awaken with
      | mk failure' awake' =>
        rw [hs, hn] at hanswer hawake
        simp only at hanswer hawake
        subst hanswer
        cases failure' with
        | some e => exact ⟨rfl, hawake⟩
        | none => exact ⟨rfl, hawake.query Step.last⟩
  | cons step rest ih =>
    obtain ⟨hanswer, hawake⟩ := h.awaken
    unfold EventLoop.running
    cases hs : s.awaken with
    | mk failure awake =>
      cases hn : noisy.awaken with
      | mk failure' awake' =>
        rw [hs, hn] at hanswer hawake
        simp only at hanswer hawake
        subst hanswer
        cases failure' with
        | some e => exact ⟨rfl, hawake⟩
        | none =>
          have hquery := hawake.query step
          dsimp only
          rw [hquery.anyComplete]
          split
          · exact ⟨rfl, hquery⟩
          · exact ih hquery

theorem run_interrupted {script : Script} {polls : Plan} (h : script.pollPlan.Interrupts polls)
    (restored : Except RestoreError Unit) :
    run { script with pollPlan := polls } restored = run script restored := by
  have hstart : Alike script.start ({ script with pollPlan := polls } : Script).start :=
    ⟨polls, rfl, h.settled_eq⟩
  obtain ⟨hwaited, left, hlast, -⟩ := running_alike hstart script.steps
  unfold run
  dsimp only
  rw [hwaited, hlast]
  simp only [log_record, log_shutDownWorkers, present_record]

end TermBridge.EventLoop
