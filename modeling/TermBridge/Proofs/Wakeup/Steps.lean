import TermBridge.Forward.Completion
import TermBridge.Wakeup.Interleaving

namespace TermBridge

namespace WakeupSignal

theorem readable_eq_false_iff (s : WakeupSignal) : s.readable = false ↔ s.bytes = 0 := by
  simp [readable]

-- A full pipe refuses the byte and is readable all the same.
theorem readable_writeByte (s : WakeupSignal) : s.writeByte.readable = true := by
  by_cases hfull : s.bytes < pipeCapacity
  · simp [writeByte, readable, hfull]
  · have hpos : s.bytes ≠ 0 := by
      simp only [pipeCapacity] at hfull
      omega
    simp [writeByte, readable, hfull, hpos]

theorem pending_writeByte (s : WakeupSignal) : s.writeByte.pending = s.pending := by
  unfold writeByte
  split <;> rfl

end WakeupSignal

namespace Interleaving

variable {workers : Nat} {s s' : State workers} {a : Action workers}

namespace State

def Passed (s : State workers) (x : Setter workers) : Prop :=
  s.call x ≠ .waiting

-- A byte lies in the pipe, or a call is going to write one.
def Due (s : State workers) : Prop :=
  s.signal.readable = true ∨ ∃ x, s.call x = .writing

theorem setCall_self (s : State workers) (x : Setter workers) (c : Call) :
    (s.setCall x c).call x = c := by
  simp [setCall]

theorem setCall_of_ne {x y : Setter workers} (hne : y ≠ x) (s : State workers) (c : Call) :
    (s.setCall x c).call y = s.call y := by
  simp [setCall, hne]

end State

namespace Point

-- What the loop still does before its next poll. One that has ended owes nobody anything.

def Clears : Point workers → Prop
  | .draining | .clearing => True
  | _ => False

def Queries : Point workers → Prop
  | .draining | .clearing | .querying | .ended => True
  | _ => False

def Checks (w : Fin workers) : Point workers → Prop
  | .polling => False
  | .checking next left => w = next ∨ w ∈ left
  | _ => True

theorem Clears.queries {p : Point workers} (h : p.Clears) : p.Queries := by
  cases p <;> simp_all [Clears, Queries]

theorem Clears.checks {p : Point workers} (h : p.Clears) (w : Fin workers) : p.Checks w := by
  cases p <;> simp_all [Clears, Checks]

theorem checks_ofUnchecked (w : Fin workers) (left : List (Fin workers)) :
    (ofUnchecked left).Checks w ↔ w ∈ left := by
  cases left <;> simp [ofUnchecked, Checks]

end Point

namespace Step

-- Only the loop's own reads take bytes away, and those are followed by a clear.
theorem due (h : Step s a s') (hd : s.Due) : s'.Due ∨ s'.point.Clears := by
  cases h with
  | poll hp hr => exact .inr trivial
  | read hp hr =>
    right
    rw [show ({ s with signal := s.signal.readBytes } : State workers).point = .draining from hp]
    trivial
  | readEmpty hp hr => exact .inr trivial
  | clear hp => exact .inl hd
  | query hp => exact .inl hd
  | checkDone hp hd' => exact .inl hd
  | checkRunning hp hd' => exact .inl hd
  | store hd' => exact .inl hd
  | change hc => exact .inl hd
  | @swap x hb hc =>
    left
    rcases hd with hr | ⟨y, hy⟩
    · exact .inl hr
    · have hne : y ≠ x := by
        rintro rfl
        rw [hc] at hy
        exact Call.noConfusion hy
      exact .inr ⟨y, (State.setCall_of_ne hne _ _).trans hy⟩
  | write hc => exact .inl (.inl (WakeupSignal.readable_writeByte s.signal))

theorem passed (h : Step s a s') {x : Setter workers} (hx : s'.Passed x) :
    s.Passed x ∨ a = .swap x := by
  cases h with
  | @swap y hb hc =>
    by_cases hxy : x = y
    · exact .inr (by rw [hxy])
    · left
      rwa [State.Passed, State.swap, State.setCall_of_ne hxy] at hx
  | @write y hc =>
    left
    by_cases hxy : x = y
    · rw [State.Passed, hxy, hc]
      exact Call.noConfusion
    · rwa [State.Passed, State.write, State.setCall_of_ne hxy] at hx
  | _ => exact .inl hx

theorem begun (h : Step s a s') {x : Setter workers} (hx : s.begun x = true) :
    s'.begun x = true := by
  cases h with
  | @store w hd =>
    cases x with
    | worker v =>
      simp only [State.begun] at hx ⊢
      simp [hx]
    | handler k => exact hx
  | @change k size hc =>
    cases x with
    | worker v => exact hx
    | handler j =>
      simp only [State.begun] at hx ⊢
      simp [hx]
  | swap hb hc => cases x <;> exact hx
  | write hc => cases x <;> exact hx
  | _ => cases x <;> exact hx

-- The flag rises by a swap only, and a clear lets it fall.
theorem pending (h : Step s a s') (hp : s'.signal.pending = true) :
    (s.signal.pending = true ∧ a ≠ .clear) ∨ ∃ x, a = .swap x := by
  cases h with
  | clear hq => exact False.elim (Bool.false_ne_true hp)
  | @swap x hb hc => exact .inr ⟨x, rfl⟩
  | write hc => exact .inl ⟨(WakeupSignal.pending_writeByte s.signal).symm.trans hp, by simp⟩
  | _ => exact .inl ⟨hp, by simp⟩

theorem clears (h : Step s a s') (hc : s.point.Clears) : s'.point.Clears ∨ a = .clear := by
  cases h with
  | clear hp => exact .inr rfl
  | poll hp hr => exact .inl trivial
  | readEmpty hp hr => exact .inl trivial
  | query hp | checkDone hp hd | checkRunning hp hd =>
    rw [hp] at hc
    exact hc.elim
  | _ => exact .inl hc

theorem queries (h : Step s a s') (hq : s.point.Queries) : s'.point.Queries ∨ a = .query := by
  cases h with
  | query hp => exact .inr rfl
  | poll hp hr => exact .inl trivial
  | readEmpty hp hr => exact .inl trivial
  | clear hp => exact .inl trivial
  | checkDone hp hd | checkRunning hp hd =>
    rw [hp] at hq
    exact hq.elim
  | _ => exact .inl hq

-- The loop passes by a worker only if it sees that worker's flag down.
theorem checks (h : Step s a s') {w : Fin workers} (hw : s.point.Checks w) :
    s'.point.Checks w ∨ s.done w = false := by
  cases h with
  | poll hp hr => exact .inl trivial
  | readEmpty hp hr => exact .inl trivial
  | clear hp => exact .inl trivial
  | query hp => exact .inl ((Point.checks_ofUnchecked w _).mpr (List.mem_finRange w))
  | checkDone hp hd => exact .inl trivial
  | checkRunning hp hd =>
    rw [hp] at hw
    rcases hw with rfl | hw
    · exact .inr hd
    · exact .inl ((Point.checks_ofUnchecked w _).mpr hw)
  | _ => exact .inl hw

end Step

namespace Run

-- A call that nothing comes between is `set`.
theorem of_set {x : Setter workers} (hb : s.begun x = true) (hc : s.call x = .waiting) :
    ∃ s', Run s (.swap x :: if s.signal.pending then [] else [.write x]) s' ∧
      s'.signal = s.signal.set ∧ s'.done = s.done := by
  have hswap := Step.swap hb hc
  by_cases hp : s.signal.pending = true
  · rw [if_pos hp]
    refine ⟨_, .cons hswap (.nil _), ?_, rfl⟩
    simp [State.swap, State.setCall, WakeupSignal.set, WakeupSignal.swap, hp]
  · rw [if_neg hp]
    have hw : (s.swap x).call x = .writing := by
      simp [State.swap, State.setCall_self, WakeupSignal.swap, hp]
    refine ⟨_, .cons hswap (.cons (.write hw) (.nil _)), ?_, rfl⟩
    simp [State.write, State.swap, State.setCall, WakeupSignal.set, WakeupSignal.swap, hp]

-- A worker that nothing comes between finishes as `Completion` does.
theorem of_finish {w : Fin workers} (hd : s.done w = false) (hc : s.call (.worker w) = .waiting) :
    ∃ s', Run s (.store w :: .swap (.worker w) ::
        if s.signal.pending then [] else [.write (.worker w)]) s' ∧
      (⟨s'.done w, s'.signal⟩ : Completion) = (⟨s.done w, s.signal⟩ : Completion).finish := by
  have hb : ({ s with done := fun v => if v = w then true else s.done v } : State workers).begun
      (.worker w) = true := by
    simp [State.begun]
  obtain ⟨s', hrun, hsignal, hdone⟩ := of_set hb hc
  refine ⟨s', .cons (.store hd) hrun, ?_⟩
  rw [hsignal, hdone]
  simp [Completion.finish]

-- A draining that nothing comes between takes one read for each 64 bytes or part of them and one more
-- that finds the pipe empty, and with the clear after it is `reset`.
theorem of_reset (hp : s.point = .draining) :
    ∃ s', Run s (List.replicate ((s.signal.bytes + 63) / 64 + 1) .read ++ [.clear]) s' ∧
      s'.signal = (s.signal.reset []).1 ∧ s'.point = .querying := by
  induction hb : s.signal.bytes using Nat.strongRecOn generalizing s with
  | ind bytes ih =>
    by_cases hzero : bytes = 0
    · have hr : s.signal.readable = false := by
        rw [WakeupSignal.readable_eq_false_iff, hb, hzero]
      refine ⟨_, by simpa [hzero] using .cons (.readEmpty hp hr) (.cons (.clear rfl) (.nil _)), ?_, rfl⟩
      simp [WakeupSignal.reset, WakeupSignal.drain, WakeupSignal.clear, hb, hzero]
    · have hr : s.signal.readable = true := by
        rw [← Bool.not_eq_false, WakeupSignal.readable_eq_false_iff, hb]
        exact hzero
      have hlt : bytes - 64 < bytes := by omega
      obtain ⟨s', hrun, hsignal, hpoint⟩ :=
        ih (bytes - 64) hlt (s := { s with signal := s.signal.readBytes }) hp
          (by simp [WakeupSignal.readBytes, WakeupSignal.readSize, hb])
      have hcount : (bytes + 63) / 64 + 1 = (bytes - 64 + 63) / 64 + 1 + 1 := by omega
      refine ⟨s', ?_, hsignal, hpoint⟩
      rw [hcount, List.replicate_succ, List.cons_append]
      exact .cons (.read hp hr) hrun

end Run

end Interleaving

end TermBridge
