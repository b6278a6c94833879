import TermBridge.Adapter.Run
import TermBridge.Proofs.EventLoop.Teardown
import TermBridge.Proofs.Terminal.Restore

namespace TermBridge

namespace Run

theorem ofLoop?_of_sizing {event : LoopEvent} (h : EventLoop.State.Sizing event) :
    Event.ofLoop? event = none := by
  rcases h with rfl | ⟨size, rfl⟩ <;> rfl

-- Of all that the loop does, it frees the session and then restores the modes, each once.
theorem filterMap_ofLoop?_run (script : EventLoop.Script) (restored : Except RestoreError Unit) :
    (EventLoop.run script restored).2.filterMap Event.ofLoop? = [.freeSession, .restoreModes] := by
  obtain ⟨seen, hseen, -, -, hlog⟩ := EventLoop.running_spec script.start script.steps
  have hsizes : seen.filterMap Event.ofLoop? = [] := by
    rw [List.filterMap_eq_nil_iff]
    exact fun event hevent => ofLoop?_of_sizing (hseen event hevent)
  have hworkers : ∀ (f : WorkerName → LoopEvent) (workers : List WorkerName),
      (∀ worker, Event.ofLoop? (f worker) = none) →
        (workers.map f).filterMap Event.ofLoop? = [] := by
    intro f workers hf
    rw [List.filterMap_eq_nil_iff]
    simp [hf]
  have htorn : ((((EventLoop.running script.start script.steps).2.record .freeSession).shutDownWorkers.record
      .restoreModes).log).filterMap Event.ofLoop? = [.freeSession, .restoreModes] := by
    rw [EventLoop.State.log_record, EventLoop.State.log_shutDownWorkers, EventLoop.State.log_record, hlog,
      show script.start.log = [] from rfl, List.nil_append]
    simp only [List.filterMap_append, hsizes, hworkers .shutdown _ fun _ => rfl,
      hworkers .release _ fun _ => rfl]
    rfl
  unfold EventLoop.run
  cases restored with
  | error err => exact htorn
  | ok done =>
    cases hw : (EventLoop.running script.start script.steps).1 with
    | some e => simpa [hw] using htorn
    | none =>
      simp only [hw, EventLoop.State.log_record _ .exitCode, List.filterMap_append, htorn]
      rfl

namespace Setup

open SavedModes

-- The run comes to a session.
def opens (s : Setup) : Bool :=
  s.wakeup.isOk && s.ownPath.isOk && s.opened.isOk

-- It comes to the switch of the terminal.
def reaches (s : Setup) : Bool :=
  s.opens && s.endpoints.isOk && s.launched.isOk && s.resizeHandler.isOk

def captured (s : Setup) : Bool :=
  s.reaches && (capture s.streams s.options s.terminals).1.isOk

-- How far the switching comes.
def switching (s : Setup) : Progress :=
  if s.reaches then progress s.streams s.options s.terminals else ⟨[], none, s.terminals⟩

-- The streams that were switched, in the order in which they are given back: newest first by a capture that
-- fails, oldest first by a restoring.
def owed (s : Setup) : SavedModes :=
  if s.captured then s.switching.switched.reverse else s.switching.switched

-- The terminals as they are when the first of the streams is given back.
def found (s : Setup) : Terminals :=
  if s.captured then s.meanwhile s.switching.terminals else s.switching.terminals

variable {s : Setup}

theorem run_of_not_reaches (h : s.reaches = false) :
    (run s).events = (if s.opens then [.openSession, .freeSession] else []) ∧
      (run s).terminals = s.terminals ∧ ∃ err, (run s).result = .error err := by
  unfold reaches at h
  unfold run
  cases hwakeup : s.wakeup with
  | error err => simp [opens, hwakeup, Except.isOk, Except.toBool]
  | ok _ =>
  cases hpath : s.ownPath with
  | error err => simp [opens, hwakeup, hpath, Except.isOk, Except.toBool]
  | ok _ =>
  cases hopened : s.opened with
  | error err => simp [opens, hwakeup, hpath, hopened, Except.isOk, Except.toBool]
  | ok _ =>
  have hopens : s.opens = true := by simp [opens, hwakeup, hpath, hopened, Except.isOk, Except.toBool]
  rw [if_pos hopens]
  cases hendpoints : s.endpoints with
  | error err => exact ⟨rfl, rfl, _, rfl⟩
  | ok _ =>
  cases hlaunched : s.launched with
  | error err => exact ⟨rfl, rfl, _, rfl⟩
  | ok _ =>
  cases hhandler : s.resizeHandler with
  | error e =>
    simp only [prepareTerminal, hhandler]
    exact ⟨rfl, rfl, _, rfl⟩
  | ok _ => simp [hopens, hendpoints, hlaunched, hhandler, Except.isOk, Except.toBool] at h

theorem run_of_reaches (h : s.reaches = true) :
    run s = match capture s.streams s.options s.terminals with
      | (.error err, ts) => ⟨⟨[.openSession, .freeSession], ts⟩, .error (.modes err)⟩
      | (.ok modes, ts) => s.forward modes ⟨[.openSession, .captureModes], ts⟩ := by
  have hok : ∀ {ε : Type} {step : Except ε Unit}, step.isOk = true → step = .ok () := by
    intro ε step hstep
    cases step with
    | error err => exact Bool.noConfusion hstep
    | ok done => rfl
  simp only [reaches, opens, Bool.and_eq_true] at h
  obtain ⟨⟨⟨⟨⟨hwakeup, hpath⟩, hopened⟩, hendpoints⟩, hlaunched⟩, hhandler⟩ := h
  simp only [run, hok hwakeup, hok hpath, hok hopened, hok hendpoints, hok hlaunched, prepareTerminal,
    hok hhandler, World.capture, World.record]
  cases hcapture : capture s.streams s.options s.terminals with
  | mk answer ts => cases answer <;> rfl

theorem events_forward (s : Setup) (modes : SavedModes) (w : World) :
    (s.forward modes w).events = w.events ++ [.freeSession, .restoreModes] := by
  unfold forward
  cases s.inputWorker with
  | error err => simp [World.restore, World.record]
  | ok started => simp [World.loop, filterMap_ofLoop?_run]

theorem terminals_forward (s : Setup) (modes : SavedModes) (w : World) :
    (s.forward modes w).terminals = (putBack modes (s.meanwhile w.terminals)).2 := by
  unfold forward
  cases s.inputWorker <;> rfl

theorem mapError_eq_ok_iff {ε ε' α : Type} {f : ε → ε'} {result : Except ε α} {value : α} :
    result.mapError f = .ok value ↔ result = .ok value := by
  cases result with
  | error err => constructor <;> intro h <;> cases h
  | ok other => constructor <;> intro h <;> cases h <;> rfl

theorem result_forward (s : Setup) (modes : SavedModes) (w : World) (code : UInt32) :
    (s.forward modes w).result = .ok code ↔ s.inputWorker = .ok () ∧
      (EventLoop.run s.loop (modes.restore (s.meanwhile w.terminals)).1).1 = .ok code := by
  unfold forward
  cases s.inputWorker with
  | error err => simp
  | ok started => simp [World.loop, mapError_eq_ok_iff]

-- What a run has done when it comes back, by how far its steps went.

theorem opens_of_reaches (h : s.reaches = true) : s.opens = true := by
  simp only [reaches, Bool.and_eq_true] at h
  exact h.1.1.1

theorem captured_of_capture {answer : Except ModeError SavedModes} {ts : Terminals}
    (h : s.reaches = true) (hcapture : capture s.streams s.options s.terminals = (answer, ts)) :
    s.captured = answer.isOk := by
  simp [captured, h, hcapture]

theorem events_cases (s : Setup) :
    (s.captured = true ∧ s.opens = true ∧
        (run s).events = [.openSession, .captureModes, .freeSession, .restoreModes]) ∨
      (s.captured = false ∧ s.opens = true ∧ (run s).events = [.openSession, .freeSession]) ∨
      (s.captured = false ∧ s.opens = false ∧ (run s).events = []) := by
  cases hreaches : s.reaches with
  | false =>
    have hcaptured : s.captured = false := by simp [captured, hreaches]
    right
    cases hopens : s.opens <;> simp [hcaptured, (run_of_not_reaches hreaches).1, hopens]
  | true =>
    have hopens := opens_of_reaches hreaches
    rw [run_of_reaches hreaches]
    cases hcapture : capture s.streams s.options s.terminals with
    | mk answer ts =>
      have hcaptured := captured_of_capture hreaches hcapture
      cases answer with
      | error err => exact .inr (.inl ⟨hcaptured, hopens, rfl⟩)
      | ok modes => exact .inl ⟨hcaptured, hopens, events_forward s modes _⟩

theorem owed_of_captured {modes : SavedModes} {ts : Terminals} (h : s.reaches = true)
    (hcapture : capture s.streams s.options s.terminals = (.ok modes, ts)) :
    s.owed = modes ∧ s.found = s.meanwhile ts := by
  have hcaptured : s.captured = true := captured_of_capture h hcapture
  rw [capture_eq_outcome, Progress.outcome] at hcapture
  split at hcapture
  next => simp at hcapture
  next hfailure =>
    simp only [Prod.mk.injEq, Except.ok.injEq] at hcapture
    simp [owed, found, switching, h, hcaptured, hcapture]

theorem owed_of_failed {err : ModeError} {ts : Terminals} (h : s.reaches = true)
    (hcapture : capture s.streams s.options s.terminals = (.error err, ts)) :
    ts = (putBack s.owed s.found).2 := by
  have hcaptured : s.captured = false := captured_of_capture h hcapture
  rw [capture_eq_outcome] at hcapture
  simp [owed, found, switching, h, hcaptured, (Progress.eq_of_outcome_eq_error hcapture).2]

theorem terminals_run (s : Setup) : (run s).terminals = (putBack s.owed s.found).2 := by
  cases hreaches : s.reaches with
  | false =>
    rw [(run_of_not_reaches hreaches).2.1]
    simp [owed, found, captured, switching, hreaches, putBack]
  | true =>
    rw [run_of_reaches hreaches]
    cases hcapture : capture s.streams s.options s.terminals with
    | mk answer ts =>
      cases answer with
      | error err => exact owed_of_failed hreaches hcapture
      | ok modes =>
        obtain ⟨howed, hfound⟩ := owed_of_captured hreaches hcapture
        rw [howed, hfound]
        exact terminals_forward s modes _

theorem result_run (s : Setup) (code : UInt32) :
    (run s).result = .ok code ↔ s.captured = true ∧ s.inputWorker = .ok () ∧
      (EventLoop.run s.loop (s.owed.restore s.found).1).1 = .ok code := by
  cases hreaches : s.reaches with
  | false =>
    obtain ⟨err, hresult⟩ := (run_of_not_reaches hreaches).2.2
    simp [hresult, captured, hreaches]
  | true =>
    rw [run_of_reaches hreaches]
    cases hcapture : capture s.streams s.options s.terminals with
    | mk answer ts =>
      have hcaptured := captured_of_capture hreaches hcapture
      cases answer with
      | error err => simp [hcaptured, Except.isOk, Except.toBool]
      | ok modes =>
        obtain ⟨howed, hfound⟩ := owed_of_captured hreaches hcapture
        rw [howed, hfound]
        rw [hcaptured, show (Except.ok modes : Except ModeError SavedModes).isOk = true from rfl]
        simpa using result_forward s modes ⟨[.openSession, .captureModes], ts⟩ code

theorem savedFrom_owed (s : Setup) : SavedFrom s.terminals s.owed := by
  have hswitched : SavedFrom s.terminals s.switching.switched := by
    unfold switching
    split
    · exact savedFrom_progress s.streams s.options s.terminals
    · exact savedFrom_nil s.terminals
  unfold owed
  split
  · exact fun saved hsaved => hswitched saved (List.mem_reverse.mp hsaved)
  · exact hswitched

theorem attributes_switching {n : Nat} (h : ∀ saved ∈ s.owed, saved.terminal ≠ n) :
    (s.switching.terminals n).attributes = (s.terminals n).attributes := by
  have hswitched : ∀ saved ∈ s.switching.switched, saved.terminal ≠ n := by
    intro saved hsaved
    refine h saved ?_
    unfold owed
    split
    · exact List.mem_reverse.mpr hsaved
    · exact hsaved
  unfold switching at hswitched ⊢
  split
  next hreaches =>
    rw [if_pos hreaches] at hswitched
    exact attributes_progress hswitched
  next => rfl

end Setup

open SavedModes in
-- What a run gives back of what it has taken.
structure GivesBack (s : Setup) (o : Outcome) : Prop where
  opened : .openSession ∈ o.events ↔ s.opens = true
  freed : o.events.count .freeSession = if .openSession ∈ o.events then 1 else 0
  captured : .captureModes ∈ o.events ↔ s.captured = true
  restored : .captureModes ∈ o.events →
    o.events.count .restoreModes = 1 ∧ [.freeSession, .restoreModes].Sublist o.events
  notRestored : .captureModes ∉ o.events → .restoreModes ∉ o.events
  -- The last that happens to the terminals is one call for each stream that was switched, whatever comes
  -- of the calls before it. One that does not fail is enough for its terminal.
  returned : o.terminals = (putBack s.owed s.found).2
  attempted : (attempts s.owed s.found).map Prod.fst = s.owed
  given : ∀ saved, (saved, none) ∈ attempts s.owed s.found →
    (o.terminals saved.terminal).attributes = (s.terminals saved.terminal).attributes.norm
  -- The other terminals have not been changed before, and are left as they are found.
  unswitched : ∀ n, (∀ saved ∈ s.owed, saved.terminal ≠ n) →
    (s.switching.terminals n).attributes = (s.terminals n).attributes
  untouched : ∀ n, (∀ saved ∈ s.owed, saved.terminal ≠ n) → o.terminals n = s.found n
  result : ∀ code, o.result = .ok code ↔ s.captured = true ∧ s.inputWorker = .ok () ∧
    (EventLoop.run s.loop (s.owed.restore s.found).1).1 = .ok code

-- Whichever step of a run fails, and however its loop ends, the session and the terminals are given back.
theorem run_gives_back (s : Setup) : GivesBack s (run s) := by
  have hterminals := s.terminals_run
  have hevents : (.openSession ∈ (run s).events ↔ s.opens = true) ∧
      ((run s).events.count .freeSession = if .openSession ∈ (run s).events then 1 else 0) ∧
      (.captureModes ∈ (run s).events ↔ s.captured = true) ∧
      (.captureModes ∈ (run s).events → (run s).events.count .restoreModes = 1 ∧
        [.freeSession, .restoreModes].Sublist (run s).events) ∧
      (.captureModes ∉ (run s).events → .restoreModes ∉ (run s).events) := by
    rcases s.events_cases with ⟨hc, ho, he⟩ | ⟨hc, ho, he⟩ | ⟨hc, ho, he⟩ <;> simp [he, hc, ho]
  obtain ⟨hopened, hfreed, hcaptured, hrestored, hnot⟩ := hevents
  refine ⟨hopened, hfreed, hcaptured, hrestored, hnot, hterminals, SavedModes.map_fst_attempts _ _, ?_,
    fun n => Setup.attributes_switching, ?_, s.result_run⟩
  · intro saved hcall
    rw [hterminals]
    exact SavedModes.attributes_putBack s.savedFrom_owed hcall
  · intro n hn
    rw [hterminals]
    exact SavedModes.putBack_of_forall_ne s.found hn

-- The input worker cannot be started after two streams of terminal 0 have been switched, and the first of
-- the two calls that restore it fails.
example :
    let o := run {
      streams := ⟨.terminal 0, .terminal 0, .pipe⟩
      options := ⟨false, true, false⟩
      terminals := fun _ => { setPlan := [⟨0⟩, ⟨0⟩, Errno.inputOutput] }
      inputWorker := .error (.pipe Errno.badDescriptor) }
    o.events = [.openSession, .captureModes, .freeSession, .restoreModes] ∧
      (o.terminals 0).attributes = Attributes.standard := by
  decide +kernel

end Run

end TermBridge
