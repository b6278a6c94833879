import TermBridge.Proofs.Wakeup.Steps

namespace TermBridge.Interleaving

variable {workers : Nat} {s s' : State workers} {past actions : List (Action workers)}

-- Every size change of the h-th handler has a query after it.
def Followed (past : List (Action workers)) (h : Nat) : Prop :=
  ∀ before size after, past = before ++ .change h size :: after → .query ∈ after

theorem followed_query (past : List (Action workers)) (h : Nat) :
    Followed (past ++ [.query]) h := by
  intro before size after heq
  rcases List.eq_nil_or_concat after with rfl | ⟨others, last, rfl⟩
  · cases (List.append_singleton_inj.mp heq).2
  · rw [List.concat_eq_append, ← List.cons_append, ← List.append_assoc] at heq
    rw [List.concat_eq_append, ← (List.append_singleton_inj.mp heq).2]
    simp

theorem Followed.append {h : Nat} (hf : Followed past h) {a : Action workers}
    (ha : ∀ size, a ≠ .change h size) : Followed (past ++ [a]) h := by
  intro before size after heq
  rcases List.eq_nil_or_concat after with rfl | ⟨others, last, rfl⟩
  · exact False.elim (ha size (List.append_singleton_inj.mp heq).2)
  · rw [List.concat_eq_append, ← List.cons_append, ← List.append_assoc] at heq
    rw [List.concat_eq_append]
    exact List.mem_append_left _ (hf before size others (List.append_singleton_inj.mp heq).1)

-- A set between the draining and the clear of a reset leaves neither a byte nor the flag, and a delayed write
-- can fall into a later round, so the pipe alone does not tell what has been noticed. What every step keeps
-- is about the calls that have passed their swap: a byte or the rest of the loop's round is still to notice
-- them, or they have been noticed.
structure Invariant (past : List (Action workers)) (s : State workers) : Prop where
  -- A flag that is up without a byte to follow is about to be cleared.
  flagged : s.signal.pending = true → s.Due ∨ s.point.Clears
  begun : ∀ x, s.Passed x → s.begun x = true
  checked : ∀ w, s.Passed (.worker w) → s.Due ∨ s.point.Checks w
  queried : ∀ h, s.Passed (.handler h) → s.Due ∨ s.point.Queries ∨ Followed past h

theorem invariant_start (opening : TerminalSize) :
    Invariant [] (start opening : State workers) where
  flagged h := False.elim (Bool.false_ne_true h)
  begun _ h := False.elim (h rfl)
  checked _ h := False.elim (h rfl)
  queried _ h := False.elim (h rfl)

-- Where the swap finds the flag down the call owes a byte; where it finds it up, somebody else's byte
-- or the clear to come answers for it.
theorem Invariant.due_of_swap (hi : Invariant past s) {x : Setter workers}
    (h : Step s (.swap x) s') : s'.Due ∨ s'.point.Clears := by
  by_cases hp : s.signal.pending = true
  · rcases hi.flagged hp with hd | hc
    · exact h.due hd
    · exact .inr ((h.clears hc).resolve_right (by simp))
  · cases h with
    | swap hb hc =>
      refine .inl (.inr ⟨x, ?_⟩)
      simp [State.swap, State.setCall_self, WakeupSignal.swap, hp]

theorem Invariant.step (hi : Invariant past s) {a : Action workers} (h : Step s a s') :
    Invariant (past ++ [a]) s' where
  flagged hp := by
    rcases h.pending hp with ⟨hp, ha⟩ | ⟨x, rfl⟩
    · rcases hi.flagged hp with hd | hc
      · exact h.due hd
      · exact .inr ((h.clears hc).resolve_right ha)
    · exact hi.due_of_swap h
  begun x hx := by
    rcases h.passed hx with hx | rfl
    · exact h.begun (hi.begun x hx)
    · have h' := h
      cases h' with
      | swap hb hc => exact h.begun hb
  checked w hw := by
    have hclears := fun hd : s'.Due ∨ s'.point.Clears => hd.imp_right fun hc => hc.checks w
    rcases h.passed hw with hw | rfl
    · rcases hi.checked w hw with hd | hc
      · exact hclears (h.due hd)
      · -- a loop that passed by this worker would have seen its flag down
        have hdone : s.done w = true := hi.begun (.worker w) hw
        exact .inr ((h.checks hc).resolve_right (by simp [hdone]))
    · exact hclears (hi.due_of_swap h)
  queried k hk := by
    have hclears := fun hd : s'.Due ∨ s'.point.Clears =>
      hd.imp_right fun hc => (.inl hc.queries : s'.point.Queries ∨ Followed (past ++ [a]) k)
    rcases h.passed hk with hk | rfl
    · rcases hi.queried k hk with hd | hq | hf
      · exact hclears (h.due hd)
      · rcases h.queries hq with hq | rfl
        · exact .inr (.inl hq)
        · exact .inr (.inr (followed_query past k))
      · refine .inr (.inr (hf.append ?_))
        rintro size rfl
        -- the size changes before its handler runs, and only once
        have hbegun : s.changed k = true := hi.begun (.handler k) hk
        cases h with
        | change hc =>
          rw [hbegun] at hc
          exact Bool.noConfusion hc
    · exact hclears (hi.due_of_swap h)

theorem Run.invariant (h : Run s actions s') (hi : Invariant past s) :
    Invariant (past ++ actions) s' := by
  induction h generalizing past with
  | nil s => simpa using hi
  | cons first _ ih => simpa using ih (hi.step first)

-- What the invariant leaves when the loop is about to sleep and nothing is on its way.

theorem State.not_due (hempty : s.signal.bytes = 0) (hidle : ∀ x, s.call x ≠ .writing) :
    ¬s.Due := by
  rintro (hr | ⟨x, hx⟩)
  · rw [(s.signal.readable_eq_false_iff).mpr hempty] at hr
    exact Bool.false_ne_true hr
  · exact hidle x hx

theorem Invariant.not_passed (hi : Invariant past s) (hpoll : s.point = .polling)
    (hd : ¬s.Due) (w : Fin workers) : s.call (.worker w) = .waiting := by
  refine Decidable.byContradiction fun hw => ?_
  rcases hi.checked w hw with h | h
  · exact hd h
  · rw [hpoll] at h
    exact h

theorem Invariant.followed (hi : Invariant past s) (hpoll : s.point = .polling)
    (hd : ¬s.Due) {h : Nat} (hh : s.Passed (.handler h)) : Followed past h := by
  rcases hi.queried h hh with hd' | hq | hf
  · exact False.elim (hd hd')
  · rw [hpoll] at hq
    exact hq.elim
  · exact hf

-- The last query has told the loop the terminal's size, unless the size has changed since.
theorem Run.known_eq_size (h : Run s actions s')
    (hknown : s.known = s.size ∨ .query ∈ actions)
    (hall : ∀ before k size after, actions = before ++ .change k size :: after → .query ∈ after) :
    s'.known = s'.size := by
  induction h with
  | nil s => simpa using hknown
  | @cons s s' s'' a rest first _ ih =>
    have hrest : ∀ before k size after, rest = before ++ .change k size :: after →
        .query ∈ after := by
      rintro before k size after rfl
      exact hall (a :: before) k size after rfl
    refine ih ?_ hrest
    cases first with
    | query hp => exact .inl rfl
    | @change k size hc => exact .inr (hall [] k size rest rfl)
    | swap hb hc => simpa [State.swap, State.setCall] using hknown
    | write hc => simpa [State.write, State.setCall] using hknown
    | _ => simpa using hknown

-- So a loop that sleeps knows the terminal's size once every handler has got past its swap.
theorem known_eq_size_of_quiet {opening : TerminalSize} (hrun : Run (start opening) actions s)
    (hpoll : s.point = .polling) (hempty : s.signal.bytes = 0)
    (hidle : ∀ x, s.call x ≠ .writing)
    (hpassed : ∀ h size, .change h size ∈ actions → s.Passed (.handler h)) : s.known = s.size := by
  have hi : Invariant actions s := by simpa using hrun.invariant (invariant_start opening)
  refine hrun.known_eq_size (.inl rfl) ?_
  intro before h size after hactions
  have hh : s.Passed (.handler h) := hpassed h size (by simp [hactions])
  exact hi.followed hpoll (State.not_due hempty hidle) hh before size after hactions

-- In every interleaving: a loop that sleeps has overlooked no worker and no size change.
theorem no_lost_wakeup {opening : TerminalSize} (hrun : Run (start opening) actions s)
    (hpoll : s.point = .polling) (hempty : s.signal.bytes = 0)
    (hidle : ∀ x, s.call x ≠ .writing) :
    (∀ w, s.call (.worker w) = .waiting) ∧
      ∀ before h size after, actions = before ++ .change h size :: after →
        s.call (.handler h) ≠ .waiting → .query ∈ after := by
  have hi : Invariant actions s := by simpa using hrun.invariant (invariant_start opening)
  have hd := State.not_due hempty hidle
  refine ⟨hi.not_passed hpoll hd, ?_⟩
  intro before h size after hactions hh
  exact hi.followed hpoll hd hh before size after hactions

-- The second handler's set falls between the last read and the clear, and leaves no byte and no flag.
theorem no_lost_wakeup_between_drain_and_clear :
    let actions : List (Action 2) :=
      [.change 0 ⟨90, 30⟩, .swap (.handler 0), .write (.handler 0), .poll, .read, .read,
        .change 1 ⟨100, 40⟩, .swap (.handler 1), .clear, .query, .check, .check]
    ∃ s, Run (start .standard) actions s ∧ s.point = .polling ∧ s.signal = .fresh ∧
      (∀ x, s.call x ≠ .writing) ∧ (∀ w, s.call (.worker w) = .waiting) ∧
      s.call (.handler 1) = .returned ∧
      .query ∈ ([.swap (.handler 1), .clear, .query, .check, .check] : List (Action 2)) := by
  intro actions
  have hrun : ∃ s, Run (start .standard) actions s ∧ s.point = .polling ∧ s.signal = .fresh ∧
      (∀ x, s.call x ≠ .writing) ∧ s.call (.handler 1) = .returned := by
    refine ⟨_, .cons (.change rfl) (.cons (.swap rfl rfl) (.cons (.write rfl) (.cons (.poll rfl rfl)
      (.cons (.read rfl rfl) (.cons (.readEmpty rfl rfl) (.cons (.change rfl) (.cons (.swap rfl rfl)
      (.cons (.clear rfl) (.cons (.query rfl) (.cons (.checkRunning rfl rfl)
      (.cons (.checkRunning rfl rfl) (.nil _)))))))))))), rfl, rfl, ?_, rfl⟩
    intro x
    by_cases h1 : x = .handler 1
    · rw [h1]
      decide
    by_cases h0 : x = .handler 0
    · rw [h0]
      decide
    simp [State.swap, State.write, State.setCall, start, h0, h1]
  obtain ⟨s, hrun, hpoll, hfresh, hidle, hreturned⟩ := hrun
  have hempty : s.signal.bytes = 0 := by rw [hfresh]; rfl
  have h := no_lost_wakeup hrun hpoll hempty hidle
  have hpassed : s.call (.handler 1) ≠ .waiting := by simp [hreturned]
  exact ⟨s, hrun, hpoll, hfresh, hidle, h.1, hreturned,
    h.2 [.change 0 ⟨90, 30⟩, .swap (.handler 0), .write (.handler 0), .poll, .read, .read] 1 ⟨100, 40⟩
      _ rfl hpassed⟩

end TermBridge.Interleaving
