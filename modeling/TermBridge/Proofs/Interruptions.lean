import TermBridge.Proofs.EventLoop.Interruptions
import TermBridge.Proofs.Forward.Interruptions

namespace TermBridge.Plan

-- Nobody tells two plans apart that differ in interruptions: not the user of a signal, whatever it does with
-- it, nor the event loop, nor the input worker. That one makes a poll more for every interrupted read, which
-- must not fail.
theorem interruptions_are_invisible {polls polls' reads reads' : Plan}
    (hpolls : polls.Interrupts polls') (hreads : reads.Interrupts reads') :
    (∀ (w : Watch) (operations : List Watch.Operation),
      let quiet := { w with pollPlan := polls, readPlan := reads }.performAll operations
      let noisy := { w with pollPlan := polls', readPlan := reads' }.performAll operations
      noisy.1 = quiet.1 ∧ noisy.2.signal = quiet.2.signal ∧ noisy.2.other = quiet.2.other) ∧
    (∀ (script : EventLoop.Script) (restored : Except RestoreError Unit),
      EventLoop.run { script with pollPlan := polls' } restored =
        EventLoop.run { script with pollPlan := polls } restored) ∧
    (polls.Harmless → ∀ (w : InputWorker) (actions : List InputWorker.Action),
      let quiet := (InputWorker.start { w with pollPlan := polls, readPlan := reads }).performAll actions
      let noisy := (InputWorker.start { w with pollPlan := polls', readPlan := reads' }).performAll actions
      noisy.sink = quiet.sink ∧ noisy.completion = quiet.completion ∧ noisy.ending = quiet.ending) := by
  refine ⟨fun w operations => ?_, fun script restored => ?_, fun hharmless w actions => ?_⟩
  · have halike : Watch.Alike { w with pollPlan := polls, readPlan := reads }
        { w with pollPlan := polls', readPlan := reads' } :=
      ⟨rfl, rfl, hpolls.settled_eq, hreads.settled_eq⟩
    obtain ⟨hanswers, hlast⟩ := halike.performAll operations
    exact ⟨hanswers, hlast.signal, hlast.other⟩
  · have hpolled : ({ script with pollPlan := polls } : EventLoop.Script).pollPlan.Interrupts polls' := hpolls
    exact EventLoop.run_interrupted hpolled restored
  · have hquiet := InputWorker.quiet_interrupted hpolls hreads hharmless w actions
    obtain ⟨-, hsink, -, -, -, -, hending, hcompletion⟩ := InputWorker.mk.inj hquiet
    exact ⟨hsink, hcompletion, hending⟩

-- A poll is interrupted before and behind the one that is let through, and two reads are.
theorem interruptions_are_invisible_in_session :
    let polls : Plan := [⟨0⟩]
    let polls' : Plan := [Errno.interrupted, ⟨0⟩, Errno.interrupted]
    let reads' : Plan := [Errno.interrupted, Errno.interrupted]
    polls.Interrupts polls' ∧ Interrupts [] reads' ∧ polls.Harmless ∧
      (({ pollPlan := polls', readPlan := reads' } : Watch).performAll [.set, .wait, .reset]).1 =
        [.done, .waited (.ready ()), .done] ∧
      (EventLoop.run { done := [.output], pollPlan := polls', exitCode := some 3 } (.ok ())).1 = .ok 3 ∧
      ((InputWorker.start { source := .pipe, pollPlan := polls', readPlan := reads' }).performAll
        [.write [1, 2], .close]).sink.taken = [1, 2] := by
  intro polls polls' reads'
  have hpolls : polls.Interrupts polls' := .interruption (.same _ (.interruption .nil))
  have hreads : Interrupts [] reads' := .interruption (.interruption .nil)
  have hharmless : polls.Harmless := fun e he => .inl (by rw [List.mem_singleton.mp he]; rfl)
  obtain ⟨hwatch, hrun, hworker⟩ := interruptions_are_invisible hpolls hreads
  refine ⟨hpolls, hreads, hharmless, ?_, ?_, ?_⟩
  · refine (hwatch {} [.set, .wait, .reset]).1.trans ?_
    decide
  · rw [hrun { done := [.output], exitCode := some 3 } (.ok ())]
    rfl
  · rw [(hworker hharmless { source := .pipe } [.write [1, 2], .close]).1]
    decide +kernel

-- A failing poll that nobody comes to without the interruption.
example :
    let w : InputWorker := { source := .file [1], pollPlan := [⟨0⟩, Errno.badDescriptor] }
    let noisy : InputWorker := { w with readPlan := [Errno.interrupted] }
    w.start.sink.taken = [1] ∧ noisy.start.sink.taken = [] := by
  decide +kernel

end TermBridge.Plan
