import TermBridge.Proofs.EventLoop.Steps

namespace TermBridge.EventLoop

namespace State

theorem log_record (s : State) (event : LoopEvent) : (s.record event).log = s.log ++ [event] := rfl

theorem present_record (s : State) (event : LoopEvent) : (s.record event).present = s.present := rfl

theorem record_all (s : State) (f : WorkerName → LoopEvent) (workers : List WorkerName) :
    workers.foldl (fun s worker => s.record (f worker)) s =
      { s with log := s.log ++ workers.map f } := by
  induction workers generalizing s with
  | nil => simp
  | cons worker rest ih =>
    rw [List.foldl_cons, ih]
    simp [record]

theorem log_shutDownWorkers (s : State) :
    s.shutDownWorkers.log = s.log ++ s.present.map .shutdown ++ s.present.map .release := by
  simp [shutDownWorkers, record_all]

end State

-- How many rounds there are if no wait fails: up to the first query that finds a worker complete, which
-- is at the latest the one behind the script.
def rounds (present completed : List WorkerName) (steps : List Step) : Nat :=
  (List.range steps.length).findIdx (fun k =>
    finds present (completed ++ (steps.take (k + 1)).flatMap Step.done)) + 1

theorem rounds_nil (present completed : List WorkerName) : rounds present completed [] = 1 := rfl

theorem rounds_cons (present completed : List WorkerName) (step : Step) (rest : List Step) :
    rounds present completed (step :: rest) =
      if finds present (completed ++ step.done) then 1
      else rounds present (completed ++ step.done) rest + 1 := by
  simp only [rounds, List.length_cons, List.range_succ_eq_map, List.findIdx_cons, List.findIdx_map]
  cases h : finds present (completed ++ step.done) <;> simp [h, Function.comp_def]

-- The rounds of a run, from any state: they end as the first of their waits does that fails, if one of
-- them does, and leave the workers alone.
theorem running_spec (s : State) (steps : List Step) :
    ∃ seen, (∀ event ∈ seen, State.Sizing event) ∧
      (running s steps).1 =
        s.pollPlan.settled.firstFailure (rounds s.present s.completed steps) ∧
      (running s steps).2.present = s.present ∧ (running s steps).2.log = s.log ++ seen := by
  induction steps generalizing s with
  | nil =>
    rw [rounds_nil, Plan.firstFailure_succ, ← State.awaken_fst]
    cases hawake : s.awaken.1 with
    | some e => exact ⟨[], by simp [running_of_failed hawake]⟩
    | none =>
      refine ⟨sizing s.size Step.last.size, fun _ => State.sizing_of_mem, ?_⟩
      simp [running_nil hawake, Plan.firstFailure_zero]
  | cons step rest ih =>
    rw [rounds_cons]
    cases hawake : s.awaken.1 with
    | some e =>
      refine ⟨[], by simp, ?_, by simp [running_of_failed hawake]⟩
      split <;> simp [running_of_failed hawake, Plan.firstFailure_succ, ← State.awaken_fst, hawake]
    | none =>
      rw [running_cons hawake]
      cases hfinds : finds s.present (s.completed ++ step.done) with
      | true =>
        refine ⟨sizing s.size step.size, fun _ => State.sizing_of_mem, ?_⟩
        simp [Plan.firstFailure_succ, ← State.awaken_fst, hawake, Plan.firstFailure_zero]
      | false =>
        obtain ⟨others, hothers, hfailure, hstill, hlog⟩ := ih (s.awaken.2.query step)
        refine ⟨sizing s.size step.size ++ others, ?_, ?_⟩
        · intro event hevent
          exact (List.mem_append.mp hevent).elim State.sizing_of_mem (hothers event)
        · simp only [State.present_query, State.completed_query, State.pollPlan_query, State.present_awaken,
            State.completed_awaken, State.settled_awaken] at hfailure hstill
          simp [hfailure, hstill, hlog, Plan.firstFailure_succ, ← State.awaken_fst, hawake]

-- How many rounds a run makes if none of its waits fails.
def Script.rounds (script : Script) : Nat :=
  EventLoop.rounds script.present script.done script.steps

-- How the waiting of a run fails, if it does.
def Script.waitFailure (script : Script) : Option Errno :=
  script.pollPlan.settled.firstFailure script.rounds

-- What a run does after its rounds, and what it answers. A failed restoring hides a failed wait, and either
-- of them the child's status.
def Script.teardown (script : Script) (restored : Except RestoreError Unit) : List LoopEvent :=
  [.freeSession] ++ script.present.map .shutdown ++ script.present.map .release ++ [.restoreModes] ++
    match restored, script.waitFailure with
    | .ok (), none => [.exitCode]
    | _, _ => []

def Script.answer (script : Script) (restored : Except RestoreError Unit) : Except LoopError UInt32 :=
  match restored, script.waitFailure with
  | .error err, _ => .error (.restore err)
  | .ok (), some e => .error (.wait (.wait e))
  | .ok (), none => .ok (script.exitCode.getD fallbackExitCode)

theorem Script.answer_of_failed {script : Script} {e : Errno} (h : script.waitFailure = some e) :
    script.answer (.ok ()) = .error (.wait (.wait e)) := by
  unfold Script.answer
  rw [h]

theorem Script.answer_ne_wait {script : Script} (h : script.waitFailure = none)
    (restored : Except RestoreError Unit) (err : WakeupError) : script.answer restored ≠ .error (.wait err) := by
  unfold Script.answer
  rw [h]
  cases restored <;> simp

theorem run_eq (script : Script) (restored : Except RestoreError Unit) :
    run script restored =
      (script.answer restored, (running script.start script.steps).2.log ++ script.teardown restored) := by
  obtain ⟨seen, -, hfailure, hpresent, -⟩ := running_spec script.start script.steps
  have hwaited : (running script.start script.steps).1 = script.waitFailure := hfailure
  have htorn : (((running script.start script.steps).2.record .freeSession).shutDownWorkers.record
      .restoreModes).log = (running script.start script.steps).2.log ++ ([.freeSession] ++
        script.present.map .shutdown ++ script.present.map .release ++ [.restoreModes]) := by
    rw [State.log_record, State.log_shutDownWorkers, State.log_record, State.present_record, hpresent,
      show script.start.present = script.present from rfl]
    simp only [List.append_assoc]
  unfold run Script.teardown Script.answer
  cases restored with
  | error err => simp [htorn]
  | ok done =>
    rw [← hwaited]
    cases hw : (running script.start script.steps).1 with
    | some e => simp [htorn, hw]
    | none => simp [htorn, hw, State.log_record]

-- Whatever ended the rounds, the session is freed before the first worker is shut down, the workers are
-- released after the last of them has been, and the terminal is restored behind all of this; each of it
-- happens once. A failed restoring hides a failed wait, and either of them the child's status.
theorem run_tears_down (script : Script) (restored : Except RestoreError Unit) :
    let workers : List WorkerName :=
      if script.errorWorker then [.input, .output, .error] else [.input, .output]
    ∃ seen, (∀ event ∈ seen, event = .querySize ∨ ∃ size, event = .setSize size) ∧
      (run script restored).2 =
        seen ++ [.freeSession] ++ workers.map .shutdown ++ workers.map .release ++ [.restoreModes] ++
          (match restored, script.waitFailure with | .ok (), none => [.exitCode] | _, _ => []) ∧
      (run script restored).1 =
        match restored, script.waitFailure with
        | .error err, _ => .error (.restore err)
        | .ok (), some e => .error (.wait (.wait e))
        | .ok (), none => .ok (script.exitCode.getD 1) := by
  intro workers
  obtain ⟨seen, hseen, -, -, hlog⟩ := running_spec script.start script.steps
  have hworkers : script.present = workers := by
    cases he : script.errorWorker <;> simp [Script.present, workers, he]
  refine ⟨seen, hseen, ?_, by rw [run_eq]; rfl⟩
  rw [run_eq, hlog, show script.start.log = [] from rfl, List.nil_append]
  unfold Script.teardown
  rw [hworkers]
  simp only [List.append_assoc]

end TermBridge.EventLoop
