import TermBridge.Proofs.Terminal.Calls

namespace TermBridge.SavedModes

open Terminals

-- The calls that give saved modes back, in their order, each with what came of it.
def attempts (modes : SavedModes) (ts : Terminals) : List (SavedMode × Option Errno) :=
  modes.zip ((putBack modes ts).1.map Prod.snd)

theorem attempts_cons (saved : SavedMode) (rest : SavedModes) (ts : Terminals) :
    attempts (saved :: rest) ts =
      (saved, (ts.put saved.terminal saved.attributes).1) ::
        attempts rest (ts.put saved.terminal saved.attributes).2 := rfl

theorem putBack_cons (saved : SavedMode) (rest : SavedModes) (ts : Terminals) :
    (putBack (saved :: rest) ts).2 =
      (putBack rest (ts.put saved.terminal saved.attributes).2).2 := rfl

-- A failure does not stop the calls behind it.
theorem map_fst_attempts (modes : SavedModes) (ts : Terminals) :
    (attempts modes ts).map Prod.fst = modes := by
  induction modes generalizing ts with
  | nil => rfl
  | cons saved rest ih => rw [attempts_cons, List.map_cons, ih]

theorem putBack_answers (modes : SavedModes) (ts : Terminals) :
    (putBack modes ts).1 = (attempts modes ts).map fun call => (call.1.role, call.2) := by
  induction modes generalizing ts with
  | nil => rfl
  | cons saved rest ih =>
    rw [attempts_cons, List.map_cons, ← ih]
    rfl

theorem setPlan_putBack (modes : SavedModes) (ts : Terminals) (n : Nat) :
    ((putBack modes ts).2 n).setPlan =
      (ts n).setPlan.drop (modes.countP fun saved => saved.terminal = n) := by
  induction modes generalizing ts with
  | nil => rfl
  | cons saved rest ih =>
    have hrest := ih (ts.put saved.terminal saved.attributes).2
    by_cases hn : saved.terminal = n
    · subst hn
      rw [setPlan_put, List.drop_drop] at hrest
      rw [putBack_cons, hrest, List.countP_cons_of_pos (by simp), Nat.add_comm]
    · rw [put_of_ne ts saved.attributes (Ne.symm hn)] at hrest
      rw [putBack_cons, hrest, List.countP_cons_of_neg (by simpa using hn)]

theorem putBack_of_forall_ne {modes : SavedModes} {n : Nat} (ts : Terminals)
    (h : ∀ saved ∈ modes, saved.terminal ≠ n) : (putBack modes ts).2 n = ts n := by
  induction modes generalizing ts with
  | nil => rfl
  | cons saved rest ih =>
    have hne : n ≠ saved.terminal := Ne.symm (h saved List.mem_cons_self)
    have hrest : ∀ other ∈ rest, other.terminal ≠ n :=
      fun other hother => h other (List.mem_cons_of_mem saved hother)
    rw [putBack_cons, ih _ hrest, put_of_ne ts saved.attributes hne]

-- What has been given back stays, since the calls behind it give the same attributes or fail.
theorem attributes_putBack_of_settled {modes : SavedModes} {before ts : Terminals} {n : Nat}
    (h : SavedFrom before modes) (hn : (ts n).attributes = (before n).attributes.norm) :
    ((putBack modes ts).2 n).attributes = (before n).attributes.norm := by
  induction modes generalizing ts with
  | nil => exact hn
  | cons saved rest ih =>
    rw [putBack_cons]
    refine ih (fun other hother => h other (List.mem_cons_of_mem saved hother)) ?_
    by_cases hne : n = saved.terminal
    · subst hne
      cases hput : ts.put saved.terminal saved.attributes with
      | mk answer after =>
        cases answer with
        | some e => exact (attributes_put_of_failed hput _).trans hn
        | none =>
          rw [attributes_put hput, h saved List.mem_cons_self]
          rfl
    · rw [put_of_ne ts saved.attributes hne, hn]

theorem attributes_putBack {modes : SavedModes} {before ts : Terminals} {saved : SavedMode}
    (h : SavedFrom before modes) (hok : (saved, none) ∈ attempts modes ts) :
    ((putBack modes ts).2 saved.terminal).attributes =
      (before saved.terminal).attributes.norm := by
  induction modes generalizing ts with
  | nil => simp [attempts] at hok
  | cons first rest ih =>
    have hrest : SavedFrom before rest :=
      fun other hother => h other (List.mem_cons_of_mem first hother)
    rw [attempts_cons, List.mem_cons] at hok
    rw [putBack_cons]
    rcases hok with hfirst | hlater
    · simp only [Prod.mk.injEq] at hfirst
      obtain ⟨rfl, hanswer⟩ := hfirst
      refine attributes_putBack_of_settled hrest ?_
      rw [attributes_put (Prod.ext hanswer.symm rfl), h saved List.mem_cons_self]
      rfl
    · exact ih hrest hlater

-- How far the switching of saved streams came: those that were switched, newest first, what ended it
-- early, and the terminals then.
structure Progress where
  switched : SavedModes
  failure : Option ModeError
  terminals : Terminals

def switching (switched : SavedModes) : SavedModes → Terminals → Progress
  | [], ts => ⟨switched, none, ts⟩
  | saved :: rest, ts =>
    match makeRaw saved.role saved.terminal ts with
    | (some err, ts) => ⟨switched, some err, ts⟩
    | (none, ts) => switching (saved :: switched) rest ts

def progress (streams : Streams) (options : CaptureOptions) (ts : Terminals) : Progress :=
  match saveAll options.allowNonTtys (requested streams options) ts with
  | (.error err, ts) => ⟨[], some err, ts⟩
  | (.ok modes, ts) => switching [] modes ts

-- What a capture that came so far does next: it answers, or gives back what was switched.
def Progress.outcome (p : Progress) : Except ModeError SavedModes × Terminals :=
  match p.failure with
  | some err => (.error err, (putBack p.switched p.terminals).2)
  | none => (.ok p.switched.reverse, p.terminals)

-- The streams are switched in the order they were saved, up to the first failure.
theorem switched_of_switching (switched modes : SavedModes) (ts : Terminals) :
    ∃ done rest, modes = done ++ rest ∧
      (switching switched modes ts).switched = done.reverse ++ switched ∧
      ((switching switched modes ts).failure = none → rest = []) := by
  fun_induction switching switched modes ts with
  | case1 switched ts => exact ⟨[], [], rfl, rfl, fun _ => rfl⟩
  | case2 switched saved rest ts err ts₁ hraw => exact ⟨[], saved :: rest, rfl, rfl, by simp⟩
  | case3 switched saved rest ts ts₁ hraw ih =>
    obtain ⟨done, left, hmodes, hswitched, hleft⟩ := ih
    refine ⟨saved :: done, left, ?_, ?_, hleft⟩
    · rw [hmodes, List.cons_append]
    · rw [hswitched, List.reverse_cons, List.append_assoc]
      rfl

theorem switchAll_of_failed {switched modes : SavedModes} {ts : Terminals} {err : ModeError}
    (h : (switching switched modes ts).failure = some err) :
    switchAll switched modes ts =
      (some err,
        (putBack (switching switched modes ts).switched (switching switched modes ts).terminals).2) := by
  fun_induction switching switched modes ts with
  | case1 switched ts => simp at h
  | case2 switched saved rest ts err' ts₁ hraw =>
    simp only [Option.some.injEq] at h
    simp [switchAll, hraw, h]
  | case3 switched saved rest ts ts₁ hraw ih => simpa [switchAll, hraw] using ih h

theorem switchAll_of_finished {switched modes : SavedModes} {ts : Terminals}
    (h : (switching switched modes ts).failure = none) :
    switchAll switched modes ts = (none, (switching switched modes ts).terminals) := by
  fun_induction switching switched modes ts with
  | case1 switched ts => rfl
  | case2 switched saved rest ts err ts₁ hraw => simp at h
  | case3 switched saved rest ts ts₁ hraw ih => simpa [switchAll, hraw] using ih h

theorem capture_eq_outcome (streams : Streams) (options : CaptureOptions) (ts : Terminals) :
    capture streams options ts = (progress streams options ts).outcome := by
  unfold capture progress
  cases hsave : saveAll options.allowNonTtys (requested streams options) ts with
  | mk answer ts₁ =>
    cases answer with
    | error err => rfl
    | ok modes =>
      dsimp only
      unfold Progress.outcome
      cases hfailure : (switching [] modes ts₁).failure with
      | some err => rw [switchAll_of_failed hfailure]
      | none =>
        obtain ⟨done, rest, hmodes, hswitched, hrest⟩ := switched_of_switching [] modes ts₁
        rw [hrest hfailure, List.append_nil] at hmodes
        rw [switchAll_of_finished hfailure, hswitched, List.append_nil, List.reverse_reverse, hmodes]

theorem Progress.eq_of_outcome_eq_error {p : Progress} {err : ModeError} {ts : Terminals}
    (h : p.outcome = (.error err, ts)) :
    p.failure = some err ∧ ts = (putBack p.switched p.terminals).2 := by
  unfold Progress.outcome at h
  split at h
  next err' hfailure =>
    simp only [Prod.mk.injEq, Except.error.injEq] at h
    exact ⟨h.1 ▸ hfailure, h.2.symm⟩
  next => simp at h

theorem attributes_switching {switched modes : SavedModes} {ts : Terminals} {n : Nat}
    (h : ∀ saved ∈ (switching switched modes ts).switched, saved.terminal ≠ n) :
    ((switching switched modes ts).terminals n).attributes = (ts n).attributes := by
  fun_induction switching switched modes ts with
  | case1 switched ts => rfl
  | case2 switched saved rest ts err ts₁ hraw => exact (makeRaw_of_failed hraw).2 n
  | case3 switched saved rest ts ts₁ hraw ih =>
    have hmem : saved ∈ (switching (saved :: switched) rest ts₁).switched := by
      obtain ⟨done, left, -, hswitched, -⟩ := switched_of_switching (saved :: switched) rest ts₁
      rw [hswitched]
      exact List.mem_append_right _ List.mem_cons_self
    have hstep := makeRaw_of_ne saved.role ts (Ne.symm (h saved hmem))
    rw [hraw] at hstep
    exact (ih h).trans hstep

theorem failure_of_switching_ne_notATty {switched modes : SavedModes} {ts : Terminals}
    (role : StreamRole) : (switching switched modes ts).failure ≠ some (.notATty role) := by
  fun_induction switching switched modes ts with
  | case1 switched ts => simp
  | case2 switched saved rest ts err ts₁ hraw =>
    simpa using (makeRaw_of_failed hraw).1 role
  | case3 switched saved rest ts ts₁ hraw ih => exact ih

variable {streams : Streams} {options : CaptureOptions} {ts : Terminals}

theorem attributes_progress {n : Nat}
    (h : ∀ saved ∈ (progress streams options ts).switched, saved.terminal ≠ n) :
    ((progress streams options ts).terminals n).attributes = (ts n).attributes := by
  have hs := attributes_saveAll options.allowNonTtys (requested streams options) ts n
  unfold progress at h ⊢
  split
  next err ts₁ hsave => rwa [hsave] at hs
  next modes ts₁ hsave =>
    rw [hsave] at h hs
    exact (attributes_switching h).trans hs

theorem savedFrom_progress (streams : Streams) (options : CaptureOptions) (ts : Terminals) :
    SavedFrom ts (progress streams options ts).switched := by
  unfold progress
  split
  next err ts₁ hsave =>
    intro saved hsaved
    simp at hsaved
  next modes ts₁ hsave =>
    obtain ⟨done, rest, hmodes, hswitched, -⟩ := switched_of_switching [] modes ts₁
    intro saved hsaved
    rw [hswitched, List.append_nil, List.mem_reverse] at hsaved
    refine savedFrom_of_saveAll hsave saved ?_
    rw [hmodes]
    exact List.mem_append_left rest hsaved

theorem switched_of_notATty {role : StreamRole}
    (h : (progress streams options ts).failure = some (.notATty role)) :
    (progress streams options ts).switched = [] := by
  unfold progress at h ⊢
  split
  next err ts₁ hsave => rfl
  next modes ts₁ hsave =>
    rw [hsave] at h
    exact absurd h (failure_of_switching_ne_notATty role)

theorem switched_of_failed_save {err : ModeError}
    (h : (saveAll options.allowNonTtys (requested streams options) ts).1 = .error err) :
    (progress streams options ts).switched = [] := by
  unfold progress
  split
  next err ts₁ hsave => rfl
  next modes ts₁ hsave => simp [hsave] at h

-- A capture that fails leaves a terminal as it was if none of its streams was switched, which is all
-- of them if a stream is refused or a save fails. The others get their attributes back, as far as one
-- reading and one setting keep them: there is one call for each stream that was switched, whatever came
-- of the calls before it, and one that does not fail is enough.
theorem capture_all_or_nothing {err : ModeError} {ts' : Terminals}
    (h : capture streams options ts = (.error err, ts')) :
    let p := progress streams options ts
    let calls := attempts p.switched p.terminals
    (∀ n, (∀ saved ∈ p.switched, saved.terminal ≠ n) → (ts' n).attributes = (ts n).attributes) ∧
    ((∃ role, err = .notATty role) ∨
        (∃ e, (saveAll options.allowNonTtys (requested streams options) ts).1 = .error e) →
      ∀ n, (ts' n).attributes = (ts n).attributes) ∧
    (∀ saved, (saved, none) ∈ calls →
      (ts' saved.terminal).attributes = (ts saved.terminal).attributes.norm) ∧
    calls.map Prod.fst = p.switched ∧
    ∀ n, (ts' n).setPlan =
      (p.terminals n).setPlan.drop (p.switched.countP fun saved => saved.terminal = n) := by
  intro p calls
  rw [capture_eq_outcome] at h
  obtain ⟨hfailure, rfl⟩ := Progress.eq_of_outcome_eq_error h
  have huntouched : ∀ n, (∀ saved ∈ p.switched, saved.terminal ≠ n) →
      ((putBack p.switched p.terminals).2 n).attributes = (ts n).attributes := by
    intro n hn
    rw [putBack_of_forall_ne p.terminals hn]
    exact attributes_progress hn
  refine ⟨huntouched, ?_, ?_, map_fst_attempts _ _, setPlan_putBack _ _⟩
  · intro hearly n
    have hnone : p.switched = [] := by
      rcases hearly with ⟨role, rfl⟩ | ⟨e, hsave⟩
      · exact switched_of_notATty hfailure
      · exact switched_of_failed_save hsave
    refine huntouched n fun saved hsaved => ?_
    simp [hnone] at hsaved
  · intro saved hcall
    exact attributes_putBack (savedFrom_progress streams options ts) hcall

-- Two streams of terminal 0 are switched, the third fails on terminal 1, and so does the first of the
-- two calls that give terminal 0 its attributes back.
theorem capture_rolls_back_past_failed_call :
    let ts : Terminals := fun n =>
      { setPlan := if n = 0 then [⟨0⟩, ⟨0⟩, Errno.inputOutput] else [Errno.inputOutput] }
    let attempt := capture ⟨.terminal 0, .terminal 0, .terminal 1⟩ ⟨false, true, true⟩ ts
    attempt.1 = .error (.setAttributes .error Errno.inputOutput) ∧
      (attempt.2 0).attributes = (ts 0).attributes.norm := by
  intro ts attempt
  have herr : attempt.1 = .error (.setAttributes .error Errno.inputOutput) := by rfl
  have hall := capture_all_or_nothing (Prod.ext herr rfl : attempt = (_, attempt.2))
  have hlast : (⟨.input, 0, Attributes.standard.known⟩, none) ∈
      attempts (progress ⟨.terminal 0, .terminal 0, .terminal 1⟩ ⟨false, true, true⟩ ts).switched
        (progress ⟨.terminal 0, .terminal 0, .terminal 1⟩ ⟨false, true, true⟩ ts).terminals := by
    decide
  exact ⟨herr, hall.2.2.1 _ hlast⟩

-- The control word loses its unnamed bits like the other flag words, here 0xA000: the roll-back does not
-- fail, and yet the word is not the one that a setting alone would make of it.
theorem capture_loses_unnamed_control_bits :
    let ts : Terminals := fun _ =>
      { attributes := { Attributes.standard with cflag := 0xA0BF },
        setPlan := [⟨0⟩, Errno.badDescriptor] }
    let attempt := capture ⟨.terminal 0, .terminal 0, .pipe⟩ ⟨false, true, false⟩ ts
    let p := progress ⟨.terminal 0, .terminal 0, .pipe⟩ ⟨false, true, false⟩ ts
    attempt.1 = .error (.setAttributes .output Errno.badDescriptor) ∧
      (∃ saved, saved.terminal = 0 ∧ (saved, none) ∈ attempts p.switched p.terminals) ∧
      (attempt.2 0).attributes ≠
        { (ts 0).attributes.norm with cflag := Attributes.forcedControl (ts 0).attributes.cflag } := by
  intro ts attempt p
  have hcall : (⟨.input, 0, (ts 0).attributes.known⟩, none) ∈ attempts p.switched p.terminals := by
    decide
  exact ⟨rfl, ⟨_, rfl, hcall⟩, by decide⟩

end TermBridge.SavedModes
