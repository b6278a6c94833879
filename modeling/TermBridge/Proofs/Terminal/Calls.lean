import TermBridge.Terminal.Modes

namespace TermBridge

theorem Plan.next_snd (plan : Plan) : plan.next.2 = plan.drop 1 := by
  cases plan with
  | nil => rfl
  | cons e rest => rfl

namespace Terminals

variable {ts ts' : Terminals} {n m : Nat} {a : Attributes} {e : Errno}

@[simp] theorem update_self (ts : Terminals) (n : Nat) (t : Terminal) : ts.update n t n = t := by
  simp [update]

@[simp] theorem update_of_ne (ts : Terminals) (t : Terminal) (h : m ≠ n) :
    ts.update n t m = ts m := by
  simp [update, h]

-- A reading uses up an entry of its terminal's plan, and changes nothing else.
theorem get_cases (ts : Terminals) (n : Nat) :
    let after := ts.update n { ts n with getPlan := (ts n).getPlan.drop 1 }
    (∃ e, ts.get n = (.error e, after)) ∨ ts.get n = (.ok (ts n).attributes.known, after) := by
  rw [← Plan.next_snd]
  simp only [get]
  split
  next e plan h => exact .inl ⟨e, by rw [h]⟩
  next plan h =>
    rw [h]
    cases (ts n).hungUp with
    | true => exact .inl ⟨Errno.inputOutput, rfl⟩
    | false => exact .inr rfl

theorem get_snd (ts : Terminals) (n : Nat) :
    (ts.get n).2 = ts.update n { ts n with getPlan := (ts n).getPlan.drop 1 } := by
  rcases get_cases ts n with ⟨e, h⟩ | h <;> rw [h]

-- So does giving attributes, which are in force afterwards if it did not fail.
theorem put_cases (ts : Terminals) (n : Nat) (a : Attributes) :
    let after := { ts n with setPlan := (ts n).setPlan.drop 1 }
    (∃ e, ts.put n a = (some e, ts.update n after)) ∨
      ts.put n a = (none, ts.update n { after with attributes := a.accepted }) := by
  rw [← Plan.next_snd]
  simp only [put]
  split
  next e plan h => exact .inl ⟨e, by rw [h]⟩
  next plan h =>
    rw [h]
    cases (ts n).hungUp with
    | true => exact .inl ⟨Errno.inputOutput, rfl⟩
    | false => exact .inr rfl

theorem attributes_get (ts : Terminals) (n m : Nat) :
    ((ts.get n).2 m).attributes = (ts m).attributes := by
  rw [get_snd]
  by_cases hm : m = n
  · subst hm
    simp
  · simp [hm]

theorem eq_known_of_get (h : ts.get n = (.ok a, ts')) : a = (ts n).attributes.known := by
  rcases get_cases ts n with ⟨e, hg⟩ | hg
  · simp [hg] at h
  · rw [hg] at h
    simp only [Prod.mk.injEq, Except.ok.injEq] at h
    exact h.1.symm

theorem put_of_ne (ts : Terminals) (a : Attributes) (h : m ≠ n) : (ts.put n a).2 m = ts m := by
  rcases put_cases ts n a with ⟨e, hp⟩ | hp <;> simp [hp, h]

theorem attributes_put_of_failed (h : ts.put n a = (some e, ts')) (m : Nat) :
    (ts' m).attributes = (ts m).attributes := by
  rcases put_cases ts n a with ⟨e', hp⟩ | hp
  · rw [hp] at h
    simp only [Prod.mk.injEq] at h
    by_cases hm : m = n
    · subst hm
      simp [← h.2]
    · simp [← h.2, hm]
  · simp [hp] at h

theorem attributes_put (h : ts.put n a = (none, ts')) : (ts' n).attributes = a.accepted := by
  rcases put_cases ts n a with ⟨e, hp⟩ | hp
  · simp [hp] at h
  · rw [hp] at h
    simp only [Prod.mk.injEq] at h
    simp [← h.2]

theorem setPlan_put (ts : Terminals) (n : Nat) (a : Attributes) :
    ((ts.put n a).2 n).setPlan = (ts n).setPlan.drop 1 := by
  rcases put_cases ts n a with ⟨e, hp⟩ | hp <;> simp [hp]

end Terminals

namespace SavedModes

open Terminals

variable {ts ts' : Terminals} {allowNonTtys : Bool} {role : StreamRole} {n : Nat}

-- What a list of saved modes gives back is what its terminals held in `ts`, as far as it is known.
def SavedFrom (ts : Terminals) (modes : SavedModes) : Prop :=
  ∀ saved ∈ modes, saved.attributes = (ts saved.terminal).attributes.known

theorem SavedFrom.congr {modes : SavedModes} (h : SavedFrom ts' modes)
    (same : ∀ m, (ts' m).attributes = (ts m).attributes) : SavedFrom ts modes := by
  intro saved hsaved
  rw [h saved hsaved, same]

theorem attributes_saveOne (allowNonTtys : Bool) (role : StreamRole) (device : StreamDevice)
    (ts : Terminals) (m : Nat) :
    ((saveOne allowNonTtys role device ts).2 m).attributes = (ts m).attributes := by
  cases device with
  | pipe => rfl
  | terminal n =>
    have hg := attributes_get ts n m
    unfold saveOne
    dsimp only
    split
    · rfl
    · split
      next h => rwa [h] at hg
      next h => rwa [h] at hg

theorem attributes_of_saveOne {device : StreamDevice} {answer : Except ModeError SavedModes}
    (h : saveOne allowNonTtys role device ts = (answer, ts')) (m : Nat) :
    (ts' m).attributes = (ts m).attributes := by
  have hs := attributes_saveOne allowNonTtys role device ts m
  rwa [h] at hs

theorem attributes_saveAll (allowNonTtys : Bool) (streams : List (StreamRole × StreamDevice))
    (ts : Terminals) (m : Nat) :
    ((saveAll allowNonTtys streams ts).2 m).attributes = (ts m).attributes := by
  fun_induction saveAll allowNonTtys streams ts with
  | case1 ts => rfl
  | case2 role device rest ts err ts₁ hone => exact attributes_of_saveOne hone m
  | case3 role device rest ts first ts₁ hone err ts₂ hall ih =>
    rw [hall] at ih
    exact ih.trans (attributes_of_saveOne hone m)
  | case4 role device rest ts first ts₁ hone others ts₂ hall ih =>
    rw [hall] at ih
    exact ih.trans (attributes_of_saveOne hone m)

-- A stream that is no terminal adds nothing to what was saved, if it is let through at all.
theorem eq_nil_of_refused {modes : SavedModes}
    (h : (if allowNonTtys then .ok [] else .error (.notATty role) : Except ModeError SavedModes) =
      .ok modes) : modes = [] := by
  cases allowNonTtys with
  | false => simp at h
  | true => simpa using h.symm

theorem savedFrom_nil (ts : Terminals) : SavedFrom ts [] :=
  fun _ hsaved => nomatch hsaved

theorem savedFrom_of_saveOne {device : StreamDevice} {modes : SavedModes}
    (h : saveOne allowNonTtys role device ts = (.ok modes, ts')) : SavedFrom ts modes := by
  cases device with
  | pipe =>
    simp only [saveOne, Prod.mk.injEq] at h
    rw [eq_nil_of_refused h.1]
    exact savedFrom_nil ts
  | terminal n =>
    unfold saveOne at h
    dsimp only at h
    split at h
    · simp only [Prod.mk.injEq] at h
      rw [eq_nil_of_refused h.1]
      exact savedFrom_nil ts
    · split at h
      next a ts₁ hget =>
        simp only [Prod.mk.injEq, Except.ok.injEq] at h
        intro saved hsaved
        simp only [← h.1, List.mem_singleton] at hsaved
        subst hsaved
        exact eq_known_of_get hget
      next => simp at h

-- The saves come before the first change, so all of them see the terminals as they were.
theorem savedFrom_of_saveAll {streams : List (StreamRole × StreamDevice)} {modes : SavedModes}
    (h : saveAll allowNonTtys streams ts = (.ok modes, ts')) : SavedFrom ts modes := by
  fun_induction saveAll allowNonTtys streams ts generalizing modes ts' with
  | case1 ts =>
    simp only [Prod.mk.injEq, Except.ok.injEq] at h
    intro saved hsaved
    simp [← h.1] at hsaved
  | case2 role device rest ts err ts₁ hone => simp at h
  | case3 role device rest ts first ts₁ hone err ts₂ hall ih => simp at h
  | case4 role device rest ts first ts₁ hone others ts₂ hall ih =>
    simp only [Prod.mk.injEq, Except.ok.injEq] at h
    intro saved hsaved
    rw [← h.1, List.mem_append] at hsaved
    rcases hsaved with hfirst | hothers
    · exact savedFrom_of_saveOne hone saved hfirst
    · exact (ih hall).congr (attributes_of_saveOne hone) saved hothers

-- A switch that fails changes no attributes, and is never for a stream that is no terminal, since those
-- are refused before the first switch. One that does not fail changes its own terminal.
theorem makeRaw_cases (role : StreamRole) (n : Nat) (ts : Terminals) :
    (∃ err ts', makeRaw role n ts = (some err, ts') ∧ (∀ r, err ≠ .notATty r) ∧
      ∀ m, (ts' m).attributes = (ts m).attributes) ∨
    ∃ ts', makeRaw role n ts = (none, ts') ∧
      (ts' n).attributes = ((ts n).attributes.known.raw role).accepted ∧
      ∀ m, m ≠ n → (ts' m).attributes = (ts m).attributes := by
  have hget := attributes_get ts n
  unfold makeRaw
  cases hg : ts.get n with
  | mk answer ts₁ =>
    rw [hg] at hget
    cases answer with
    | error e => exact .inl ⟨_, ts₁, rfl, by simp, hget⟩
    | ok a =>
      obtain rfl := eq_known_of_get hg
      cases hp : ts₁.put n ((ts n).attributes.known.raw role) with
      | mk failure ts₂ =>
        dsimp only
        rw [hp]
        cases failure with
        | some e =>
          left
          refine ⟨_, ts₂, rfl, by simp, ?_⟩
          intro m
          exact (attributes_put_of_failed hp m).trans (hget m)
        | none =>
          right
          refine ⟨ts₂, rfl, attributes_put hp, ?_⟩
          intro m hm
          have hother := put_of_ne ts₁ ((ts n).attributes.known.raw role) hm
          rw [hp] at hother
          exact (congrArg Terminal.attributes hother).trans (hget m)

theorem makeRaw_of_ne (role : StreamRole) (ts : Terminals) {m : Nat} (h : m ≠ n) :
    ((makeRaw role n ts).2 m).attributes = (ts m).attributes := by
  rcases makeRaw_cases role n ts with ⟨err, ts₁, hraw, -, hsame⟩ | ⟨ts₁, hraw, -, hsame⟩
  · rw [hraw]
    exact hsame m
  · rw [hraw]
    exact hsame m h

theorem makeRaw_of_failed {err : ModeError} (h : makeRaw role n ts = (some err, ts')) :
    (∀ r, err ≠ .notATty r) ∧ ∀ m, (ts' m).attributes = (ts m).attributes := by
  rcases makeRaw_cases role n ts with ⟨err', ts₁, hraw, hrefused, hsame⟩ | ⟨ts₁, hraw, -, -⟩
  · rw [hraw] at h
    simp only [Prod.mk.injEq, Option.some.injEq] at h
    obtain ⟨rfl, rfl⟩ := h
    exact ⟨hrefused, hsame⟩
  · simp [hraw] at h

end SavedModes

end TermBridge
