import TermBridge.Proofs.Wakeup.Operations
import TermBridge.Wakeup.Stopping

namespace TermBridge.Stopping

variable {s s' : Stopping} {half : Half}

theorem Step.requested (h : Step s half s') (hr : s.Requested) : s'.Requested := by
  cases h with
  | swap ho => exact hr
  | write ho => exact WakeupSignal.readable_writeByte s.signal

-- A call of `set` that has returned has left a byte.
def Told (s : Stopping) : Prop :=
  s.signal.pending = true → s.owing = true ∨ s.Requested

theorem told_fresh : Told {} :=
  fun h => False.elim (Bool.false_ne_true h)

theorem Step.told (h : Step s half s') (ht : s.Told) : s'.Told := by
  cases h with
  | swap ho =>
    intro _
    cases hp : s.signal.pending with
    | false => exact .inl (by simp [WakeupSignal.swap, hp])
    | true => exact .inr ((ht hp).resolve_left (by simp [ho]))
  | write ho => exact fun _ => .inr (WakeupSignal.readable_writeByte s.signal)

-- With nothing in between the halves make up `set`.
theorem of_set (signal : WakeupSignal) :
    Trace Step ⟨signal, false⟩ (.swap :: if signal.pending then [] else [.write]) ⟨signal.set, false⟩ := by
  have hswap : Step ⟨signal, false⟩ .swap ⟨signal.swap.2, !signal.swap.1⟩ := .swap rfl
  cases hp : signal.pending with
  | true =>
    simpa [WakeupSignal.set, WakeupSignal.swap, hp] using Trace.cons hswap (.nil _)
  | false =>
    have howing : (!signal.swap.1) = true := by simp [WakeupSignal.swap, hp]
    simpa [WakeupSignal.set, WakeupSignal.swap, hp] using
      Trace.cons hswap (.cons (.write howing) (.nil _))

end TermBridge.Stopping

namespace TermBridge.WakeupSignal

variable {State Action : Type} {step : State → Action → State → Prop}

-- Where a wait leads, with each poll told as an action of its own. One that waits on stays where it was.
def waitedAt (s : State) (after : Except Errno Wake → State) : Waited Wake → State
  | .ready wake => after (.ok wake)
  | .failed e => after (.error e)
  | .blocked => s

-- The polls of a wait, from a plan on. Each takes its entry of the plan; one that waits on has taken it too,
-- but has not been answered.
def Polls (step : State → Action → State → Prop) (call : Except Errno Wake → Action)
    (before : Plan → State) (after : Plan → Except Errno Wake → State) (start : Plan)
    (result : Waited Wake × Plan) : Prop :=
  ∃ (answers : List (Except Errno Wake)) (last : Plan),
    Trace step (before start) (answers.map call) (waitedAt (before last) (after last) result.1) ∧
      result.2 <:+ last ∧ (result.1 ≠ .blocked → last = result.2)

variable {signal : WakeupSignal} {otherReadable : Bool} {call : Except Errno Wake → Action}
  {before : Plan → State} {after : Plan → Except Errno Wake → State} {plan : Plan}

theorem polls_of_next_none (hplan : plan.next.1 = none)
    (hready : ∀ wake, signal.wakeOf otherReadable = some wake →
      step (before plan) (call (.ok wake)) (after plan.next.2 (.ok wake))) :
    Polls step call before after plan (signal.waitOrReadable otherReadable plan) := by
  have hwait : signal.waitOrReadable otherReadable plan =
      ((signal.wakeOf otherReadable).elim .blocked .ready, plan.next.2) :=
    Plan.poll_of_next_none hplan
  rw [hwait]
  cases hw : signal.wakeOf otherReadable with
  | none => exact ⟨[], plan, .nil _, plan.next_suffix, fun hne => False.elim (hne rfl)⟩
  | some wake =>
    exact ⟨[.ok wake], plan.next.2, .cons (hready wake hw) (.nil _), List.suffix_rfl, fun _ => rfl⟩

theorem polls_waitOrReadable (hagain : ∀ plan, after plan (.error Errno.interrupted) = before plan)
    (hfailed : ∀ plan e, plan.next.1 = some e →
      step (before plan) (call (.error e)) (after plan.next.2 (.error e)))
    (hready : ∀ plan wake, plan.next.1 = none → signal.wakeOf otherReadable = some wake →
      step (before plan) (call (.ok wake)) (after plan.next.2 (.ok wake))) (plan : Plan) :
    Polls step call before after plan (signal.waitOrReadable otherReadable plan) := by
  induction plan with
  | nil => exact polls_of_next_none rfl fun wake => hready [] wake rfl
  | cons e rest ih =>
    by_cases he : e = Errno.interrupted
    · subst he
      have hsame : signal.waitOrReadable otherReadable (Errno.interrupted :: rest) =
          signal.waitOrReadable otherReadable rest := by
        simp [waitOrReadable, Plan.poll]
      have hfirst := hfailed (Errno.interrupted :: rest) Errno.interrupted rfl
      rw [hagain] at hfirst
      obtain ⟨answers, last, hrest, hlast⟩ := ih
      rw [hsame]
      exact ⟨.error Errno.interrupted :: answers, last, .cons hfirst hrest, hlast⟩
    · cases hpass : e.passes with
      | true =>
        have hnext : Plan.next (e :: rest) = (none, rest) := by simp [Plan.next, hpass]
        exact polls_of_next_none (by rw [hnext]) fun wake => hready (e :: rest) wake (by rw [hnext])
      | false =>
        have hnext : Plan.next (e :: rest) = (some e, rest) := by simp [Plan.next, hpass]
        have hfails : signal.waitOrReadable otherReadable (e :: rest) = (.failed e, rest) := by
          simp [waitOrReadable, Plan.poll, he, hpass]
        have hstep := hfailed (e :: rest) e (by rw [hnext])
        rw [hnext] at hstep
        rw [hfails]
        exact ⟨[.error e], rest, .cons hstep (.nil _), List.suffix_rfl, fun _ => rfl⟩

end TermBridge.WakeupSignal
