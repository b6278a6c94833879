import TermBridge.EventLoop
import TermBridge.Proofs.Wakeup.Operations

namespace TermBridge.EventLoop

-- The size that an answer is handed on for: one that is known, and another one than before.
def change? (known : TerminalSize) (answer : Option TerminalSize) : Option TerminalSize :=
  answer.filter (· ≠ known)

@[simp] theorem change?_none (known : TerminalSize) : change? known none = none := rfl

theorem change?_some (known size : TerminalSize) :
    change? known (some size) = if size = known then none else some size := by
  by_cases h : size = known <;> simp [change?, Option.filter, h]

-- An answer becomes what is known, whether or not it is handed on.
theorem getD_change? (known : TerminalSize) (answer : Option TerminalSize) :
    (change? known answer).getD known = answer.getD known := by
  cases answer with
  | none => rfl
  | some size => by_cases h : size = known <;> simp [change?_some, h]

-- What a query does to the outside.
def sizing (known : TerminalSize) (answer : Option TerminalSize) : List LoopEvent :=
  .querySize :: (change? known answer).toList.map .setSize

-- A query that finds a worker complete ends the rounds.
def finds (present completed : List WorkerName) : Bool :=
  present.any (completed.contains ·)

theorem anyComplete_eq_finds (s : State) : s.anyComplete = finds s.present s.completed := rfl

namespace State

-- What a round does to the outside.
def Sizing (event : LoopEvent) : Prop :=
  event = .querySize ∨ ∃ size, event = .setSize size

theorem sizing_of_mem {known : TerminalSize} {answer : Option TerminalSize} {event : LoopEvent}
    (h : event ∈ sizing known answer) : Sizing event := by
  rw [sizing, List.mem_cons, List.mem_map] at h
  rcases h with rfl | ⟨size, -, rfl⟩
  · exact .inl rfl
  · exact .inr ⟨size, rfl⟩

theorem resize_eq (s : State) (answer : Option TerminalSize) :
    s.resize answer = { s with
      size := answer.getD s.size
      sessionSize := if s.refusing then s.sessionSize else (change? s.size answer).getD s.sessionSize
      log := s.log ++ (change? s.size answer).toList.map .setSize } := by
  cases answer with
  | none => simp [resize]
  | some size => by_cases hsize : size = s.size <;> simp [resize, change?_some, hsize]

-- A query completes the workers of its step, and leaves the plans and the other workers alone.
theorem query_eq (s : State) (step : Step) :
    s.query step = { s with
      completed := s.completed ++ step.done
      refusing := step.refuse
      wakeup := s.wakeup.setTimes (max 1 step.signals)
      size := step.size.getD s.size
      sessionSize := if step.refuse then s.sessionSize else (change? s.size step.size).getD s.sessionSize
      log := s.log ++ sizing s.size step.size } := by
  simp [query, resize_eq, wake, sizing]

@[simp] theorem present_query (s : State) (step : Step) : (s.query step).present = s.present := by
  rw [query_eq]

@[simp] theorem completed_query (s : State) (step : Step) :
    (s.query step).completed = s.completed ++ step.done := by
  rw [query_eq]

@[simp] theorem pollPlan_query (s : State) (step : Step) : (s.query step).pollPlan = s.pollPlan := by
  rw [query_eq]

@[simp] theorem log_query (s : State) (step : Step) :
    (s.query step).log = s.log ++ sizing s.size step.size := by
  rw [query_eq]

-- A wait fails as the first of its calls does that is not interrupted, and takes those up to this one.
theorem awaken_cases (s : State) :
    ∃ plan wakeup, plan.settled = s.pollPlan.settled.drop 1 ∧
      s.awaken = (s.pollPlan.settled.next.1, { s with pollPlan := plan, wakeup := wakeup }) := by
  have hanswer := Plan.poll_fst (if s.wakeup.readable then some () else none) s.pollPlan
  refine ⟨(s.wakeup.wait s.pollPlan).2, s.awaken.2.wakeup, Plan.settled_poll _ _, ?_⟩
  unfold awaken
  split
  next e plan h =>
    rw [WakeupSignal.wait] at h
    rw [h] at hanswer
    cases hn : s.pollPlan.settled.next.1 with
    | some e' =>
      rw [hn] at hanswer
      simp only [Waited.failed.injEq] at hanswer
      simp [WakeupSignal.wait, h, hanswer]
    | none =>
      rw [hn] at hanswer
      cases hr : s.wakeup.readable <;> simp [hr] at hanswer
  next answer plan hne h =>
    rw [WakeupSignal.wait] at h
    cases hn : s.pollPlan.settled.next.1 with
    | some e =>
      rw [hn, h] at hanswer
      exact False.elim (hne e hanswer)
    | none => simp [WakeupSignal.wait, h]

section

variable (s : State)

theorem awaken_fst : s.awaken.1 = s.pollPlan.settled.next.1 := by
  obtain ⟨plan, wakeup, -, hawaken⟩ := s.awaken_cases
  rw [hawaken]

theorem settled_awaken : s.awaken.2.pollPlan.settled = s.pollPlan.settled.drop 1 := by
  obtain ⟨plan, wakeup, hplan, hawaken⟩ := s.awaken_cases
  rw [hawaken, ← hplan]

@[simp] theorem present_awaken : s.awaken.2.present = s.present := by
  obtain ⟨plan, wakeup, -, hawaken⟩ := s.awaken_cases
  rw [hawaken]

@[simp] theorem completed_awaken : s.awaken.2.completed = s.completed := by
  obtain ⟨plan, wakeup, -, hawaken⟩ := s.awaken_cases
  rw [hawaken]

@[simp] theorem size_awaken : s.awaken.2.size = s.size := by
  obtain ⟨plan, wakeup, -, hawaken⟩ := s.awaken_cases
  rw [hawaken]

@[simp] theorem log_awaken : s.awaken.2.log = s.log := by
  obtain ⟨plan, wakeup, -, hawaken⟩ := s.awaken_cases
  rw [hawaken]

end

-- All sets before a wait are one wake-up: the reset behind it leaves nothing of them.
theorem awaken_eq {s : State} (h : s.awaken.1 = none) :
    ∃ plan, plan.settled = s.pollPlan.settled.drop 1 ∧
      s.awaken.2 = { s with pollPlan := plan, wakeup := .fresh } := by
  obtain ⟨plan, wakeup, hplan, hawaken⟩ := s.awaken_cases
  refine ⟨plan, hplan, ?_⟩
  have hwakeup : s.awaken.2.wakeup = .fresh := by
    unfold awaken at h ⊢
    split
    next e left hfailed => simp [hfailed] at h
    next => rfl
  rw [hawaken] at hwakeup ⊢
  rw [← hwakeup]

end State

-- What the first wait of the rounds leads to.

theorem running_of_failed {s : State} {e : Errno} (h : s.awaken.1 = some e) (steps : List Step) :
    running s steps = (some e, s.awaken.2) := by
  have hawaken : s.awaken = (some e, s.awaken.2) := Prod.ext h rfl
  cases steps <;> rw [running, hawaken]

theorem running_nil {s : State} (h : s.awaken.1 = none) :
    running s [] = (none, s.awaken.2.query Step.last) := by
  rw [running, show s.awaken = (none, s.awaken.2) from Prod.ext h rfl]

theorem running_cons {s : State} (h : s.awaken.1 = none) (step : Step) (rest : List Step) :
    running s (step :: rest) =
      if finds s.present (s.completed ++ step.done) then (none, s.awaken.2.query step)
      else running (s.awaken.2.query step) rest := by
  have hcomplete : (s.awaken.2.query step).anyComplete = finds s.present (s.completed ++ step.done) := by
    simp [anyComplete_eq_finds]
  rw [running, show s.awaken = (none, s.awaken.2) from Prod.ext h rfl]
  simp only [hcomplete]

end TermBridge.EventLoop
