namespace TermBridge

variable {State Action : Type} {step : State → Action → State → Prop}

inductive Trace (step : State → Action → State → Prop) : State → List Action → State → Prop where
  | nil (s : State) : Trace step s [] s
  | cons {s s' s'' : State} {a : Action} {rest : List Action}
    (first : step s a s') (others : Trace step s' rest s'') : Trace step s (a :: rest) s''

-- Two systems that take each action together.
def Both {State' : Type} (step : State → Action → State → Prop) (step' : State' → Action → State' → Prop)
    (s : State × State') (a : Action) (s' : State × State') : Prop :=
  step s.1 a s'.1 ∧ step' s.2 a s'.2

namespace Trace

variable {s s' s'' : State} {a : Action} {past future : List Action}

theorem append (h : Trace step s past s') (h' : Trace step s' future s'') :
    Trace step s (past ++ future) s'' := by
  induction h with
  | nil s => exact h'
  | cons first _ ih => exact .cons first (ih h')

theorem concat (h : Trace step s past s') (last : step s' a s'') : Trace step s (past ++ [a]) s'' :=
  h.append (.cons last (.nil s''))

theorem exists_between (h : Trace step s (past ++ future) s'') :
    ∃ s', Trace step s past s' ∧ Trace step s' future s'' := by
  induction past generalizing s with
  | nil => exact ⟨s, .nil s, h⟩
  | cons a rest ih =>
    cases h with
    | cons first others =>
      obtain ⟨s', hpast, hfuture⟩ := ih others
      exact ⟨s', .cons first hpast, hfuture⟩

theorem exists_at (h : Trace step s (past ++ a :: future) s'') :
    ∃ before after, Trace step s past before ∧ step before a after ∧ Trace step after future s'' := by
  obtain ⟨before, hpast, hfuture⟩ := h.exists_between
  cases hfuture with
  | cons first others => exact ⟨before, _, hpast, first, others⟩

-- A system that takes the steps of another one takes its runs.
theorem map {State' Action' : Type} {step' : State' → Action' → State' → Prop} (f : State → State')
    (g : Action → Action') (hstep : ∀ {s a s'}, step s a s' → step' (f s) (g a) (f s'))
    (h : Trace step s past s') : Trace step' (f s) (past.map g) (f s') := by
  induction h with
  | nil s => exact .nil (f s)
  | cons first _ ih => exact .cons (hstep first) ih

section Both

variable {State' : Type} {step' : State' → Action → State' → Prop} {both both' : State × State'}

theorem fst (h : Trace (Both step step') both past both') : Trace step both.1 past both'.1 := by
  induction h with
  | nil both => exact .nil both.1
  | cons first _ ih => exact .cons first.1 ih

theorem snd (h : Trace (Both step step') both past both') : Trace step' both.2 past both'.2 := by
  induction h with
  | nil both => exact .nil both.2
  | cons first _ ih => exact .cons first.2 ih

end Both

-- What every step keeps a whole run keeps.
theorem invariant (P : State → Prop) (hstep : ∀ {s a s'}, step s a s' → P s → P s')
    (h : Trace step s past s') (hs : P s) : P s' := by
  induction h with
  | nil s => exact hs
  | cons first _ ih => exact ih (hstep first hs)

-- The same for what is said about a state and the actions that have led to it.
theorem invariant_past (P : List Action → State → Prop)
    (hstep : ∀ {past s a s'}, step s a s' → P past s → P (past ++ [a]) s')
    (h : Trace step s past s') (hs : P [] s) : P past s' := by
  have hrun : ∀ before, P before s → P (before ++ past) s' := by
    clear hs
    induction h with
    | nil s => simp
    | cons first _ ih =>
      intro before hbefore
      simpa using ih _ (hstep first hbefore)
  exact hrun [] hs

end Trace

end TermBridge
