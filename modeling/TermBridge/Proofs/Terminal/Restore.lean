import TermBridge.Proofs.Terminal.RollBack

namespace TermBridge

namespace Terminal

-- A terminal on which so many settings of attributes have failed.
def afterCalls (t : Terminal) (calls : Nat) : Terminal :=
  { t with setPlan := t.setPlan.drop calls }

-- How the setting fails that comes after so many others, if it does.
def failureAfter (t : Terminal) (calls : Nat) : Option Errno :=
  (Plan.next (t.setPlan.drop calls)).1.or (if t.hungUp then some Errno.inputOutput else none)

theorem failureAfter_afterCalls (t : Terminal) (earlier calls : Nat) :
    (t.afterCalls earlier).failureAfter calls = t.failureAfter (earlier + calls) := by
  unfold failureAfter
  rw [← List.drop_drop]
  rfl

end Terminal

namespace Terminals

theorem put_fst (ts : Terminals) (n : Nat) (a : Attributes) :
    (ts.put n a).1 = (ts n).failureAfter 0 := by
  simp only [put, Terminal.failureAfter, List.drop_zero]
  split
  next e plan h => simp [h]
  next plan h =>
    rw [h]
    cases (ts n).hungUp <;> rfl

theorem put_snd_self (ts : Terminals) (n : Nat) (a : Attributes) :
    (ts.put n a).2 n =
      { (ts n).afterCalls 1 with attributes := ((ts.put n a).2 n).attributes } := by
  rcases put_cases ts n a with ⟨e, h⟩ | h <;> simp [h, Terminal.afterCalls]

-- What a call on one terminal makes of the failures to come on any of them.
theorem failureAfter_put (ts : Terminals) (n m : Nat) (a : Attributes) (calls : Nat) :
    ((ts.put n a).2 m).failureAfter calls =
      (ts m).failureAfter (calls + if n = m then 1 else 0) := by
  by_cases hm : n = m
  · subst hm
    rw [put_snd_self, if_pos rfl, Nat.add_comm, ← Terminal.failureAfter_afterCalls]
    rfl
  · rw [put_of_ne ts a (Ne.symm hm), if_neg hm, Nat.add_zero]

theorem hungUp_get (ts : Terminals) (n m : Nat) : ((ts.get n).2 m).hungUp = (ts m).hungUp := by
  rw [get_snd]
  by_cases hm : m = n
  · subst hm
    simp
  · simp [hm]

end Terminals

namespace SavedModes

open Terminals

-- How many of the attempts are for one terminal.
def attemptsOn (modes : SavedModes) (n : Nat) : Nat :=
  modes.countP fun saved => saved.terminal = n

theorem attemptsOn_cons (saved : SavedMode) (rest : SavedModes) (n : Nat) :
    attemptsOn (saved :: rest) n = attemptsOn rest n + if saved.terminal = n then 1 else 0 := by
  simp [attemptsOn, List.countP_cons]

-- Each attempt fails as its terminal has it after the attempts before it on the same terminal. Those
-- on other terminals do not count, whatever came of them.
theorem getElem?_attempts (modes : SavedModes) (ts : Terminals) (i : Nat) :
    (attempts modes ts)[i]? = modes[i]?.map fun saved =>
      (saved, (ts saved.terminal).failureAfter (attemptsOn (modes.take i) saved.terminal)) := by
  induction modes generalizing ts i with
  | nil => rfl
  | cons first rest ih =>
    rw [attempts_cons]
    cases i with
    | zero => simp [put_fst, attemptsOn]
    | succ i =>
      rw [List.getElem?_cons_succ, List.getElem?_cons_succ, ih]
      simp only [failureAfter_put, List.take_succ_cons, attemptsOn_cons]

theorem putBack_eq_afterCalls (modes : SavedModes) (ts : Terminals) (n : Nat) :
    (putBack modes ts).2 n =
      { (ts n).afterCalls (attemptsOn modes n) with
        attributes := ((putBack modes ts).2 n).attributes } := by
  induction modes generalizing ts with
  | nil => rfl
  | cons saved rest ih =>
    rw [putBack_cons, ih]
    by_cases hn : saved.terminal = n
    · subst hn
      rw [put_snd_self, attemptsOn_cons, if_pos rfl]
      simp [Terminal.afterCalls, Nat.add_comm]
    · rw [put_of_ne ts saved.attributes (Ne.symm hn), attemptsOn_cons, if_neg hn, Nat.add_zero]

theorem attributes_putBack_of_failed {modes : SavedModes} {ts : Terminals} {n : Nat}
    (h : ∀ saved, (saved, none) ∈ attempts modes ts → saved.terminal ≠ n) :
    ((putBack modes ts).2 n).attributes = (ts n).attributes := by
  induction modes generalizing ts with
  | nil => rfl
  | cons saved rest ih =>
    rw [attempts_cons] at h
    rw [putBack_cons, ih fun other hother => h other (List.mem_cons_of_mem _ hother)]
    cases hput : ts.put saved.terminal saved.attributes with
    | mk answer after =>
      cases answer with
      | some e => exact attributes_put_of_failed hput n
      | none =>
        rw [hput] at h
        have hne : n ≠ saved.terminal := Ne.symm (h saved List.mem_cons_self)
        have hother := put_of_ne ts saved.attributes hne
        rw [hput] at hother
        rw [hother]

-- What a restoring answers and does, in terms of its attempts.

theorem failuresOf_putBack (modes : SavedModes) (ts : Terminals) :
    failuresOf (putBack modes ts).1 =
      (attempts modes ts).filterMap fun call => call.2.map fun e => (call.1.role, e) := by
  rw [putBack_answers, failuresOf, List.filterMap_map]
  rfl

theorem restore_eq_ok_iff (modes : SavedModes) (ts : Terminals) :
    (modes.restore ts).1 = .ok () ↔ ∀ call ∈ attempts modes ts, call.2 = none := by
  have hempty : failuresOf (putBack modes ts).1 = [] ↔ ∀ call ∈ attempts modes ts, call.2 = none := by
    rw [failuresOf_putBack, List.filterMap_eq_nil_iff]
    simp
  rw [← hempty]
  cases hf : failuresOf (putBack modes ts).1 <;> simp [restore, hf]

theorem failures_of_restore {modes : SavedModes} {ts : Terminals} {err : RestoreError}
    (h : (modes.restore ts).1 = .error err) :
    err.failures =
      (attempts modes ts).filterMap fun call => call.2.map fun e => (call.1.role, e) := by
  rw [← failuresOf_putBack]
  simp only [restore] at h
  split at h
  · simp at h
  · simp only [Except.error.injEq] at h
    rw [← h]

-- Which streams a capture captures.

def captured? (ts : Terminals) : StreamRole × StreamDevice → Option (StreamRole × Nat)
  | (role, .terminal n) => if (ts n).hungUp then none else some (role, n)
  | (_, .pipe) => none

theorem captured?_congr {ts ts' : Terminals} (h : ∀ m, (ts' m).hungUp = (ts m).hungUp) :
    captured? ts' = captured? ts := by
  funext stream
  obtain ⟨role, device⟩ := stream
  cases device with
  | pipe => rfl
  | terminal n => simp only [captured?, h n]

theorem captured_of_saveOne {allowNonTtys : Bool} {role : StreamRole} {device : StreamDevice}
    {ts ts' : Terminals} {modes : SavedModes}
    (h : saveOne allowNonTtys role device ts = (.ok modes, ts')) :
    modes.map (fun saved => (saved.role, saved.terminal)) = (captured? ts (role, device)).toList ∧
      ∀ m, (ts' m).hungUp = (ts m).hungUp := by
  cases device with
  | pipe =>
    simp only [saveOne, Prod.mk.injEq] at h
    obtain ⟨hmodes, rfl⟩ := h
    rw [eq_nil_of_refused hmodes]
    exact ⟨rfl, fun _ => rfl⟩
  | terminal n =>
    have hup := hungUp_get ts n
    unfold saveOne at h
    dsimp only at h
    split at h
    next hn =>
      simp only [Prod.mk.injEq] at h
      obtain ⟨hmodes, rfl⟩ := h
      rw [eq_nil_of_refused hmodes]
      exact ⟨by simp [captured?, hn], fun _ => rfl⟩
    next hn =>
      split at h
      next a ts₁ hget =>
        simp only [Prod.mk.injEq, Except.ok.injEq] at h
        obtain ⟨rfl, rfl⟩ := h
        rw [hget] at hup
        exact ⟨by simp [captured?, hn], hup⟩
      next => simp at h

theorem captured_of_saveAll {allowNonTtys : Bool} {streams : List (StreamRole × StreamDevice)}
    {ts ts' : Terminals} {modes : SavedModes}
    (h : saveAll allowNonTtys streams ts = (.ok modes, ts')) :
    modes.map (fun saved => (saved.role, saved.terminal)) = streams.filterMap (captured? ts) := by
  fun_induction saveAll allowNonTtys streams ts generalizing modes ts' with
  | case1 ts =>
    simp only [Prod.mk.injEq, Except.ok.injEq] at h
    simp [← h.1]
  | case2 role device rest ts err ts₁ hone => simp at h
  | case3 role device rest ts first ts₁ hone err ts₂ hall ih => simp at h
  | case4 role device rest ts first ts₁ hone others ts₂ hall ih =>
    simp only [Prod.mk.injEq, Except.ok.injEq] at h
    obtain ⟨hfirst, hup⟩ := captured_of_saveOne hone
    rw [← h.1, List.map_append, ih hall, hfirst, captured?_congr hup, List.filterMap_cons]
    cases captured? ts (role, device) <;> rfl

theorem saveAll_of_capture {streams : Streams} {options : CaptureOptions} {ts ts' : Terminals}
    {modes : SavedModes} (h : capture streams options ts = (.ok modes, ts')) :
    ∃ ts₁, saveAll options.allowNonTtys (requested streams options) ts = (.ok modes, ts₁) := by
  unfold capture at h
  split at h
  next => simp at h
  next saved ts₁ hsave =>
    split at h
    next => simp at h
    next ts₂ hswitch =>
      simp only [Prod.mk.injEq, Except.ok.injEq] at h
      exact ⟨ts₁, h.1 ▸ hsave⟩

theorem roles_sublist_of_capture {streams : Streams} {options : CaptureOptions}
    {ts ts' : Terminals} {modes : SavedModes}
    (h : capture streams options ts = (.ok modes, ts')) :
    (modes.map SavedMode.role).Sublist [.input, .output, .error] := by
  obtain ⟨ts₁, hsave⟩ := saveAll_of_capture h
  have hroles : modes.map SavedMode.role =
      ((requested streams options).filterMap (captured? ts)).map Prod.fst := by
    rw [← captured_of_saveAll hsave, List.map_map]
    rfl
  have hkept : ∀ requests : List (StreamRole × StreamDevice),
      ((requests.filterMap (captured? ts)).map Prod.fst).Sublist (requests.map Prod.fst) := by
    intro requests
    induction requests with
    | nil => exact .slnil
    | cons request rest ih =>
      obtain ⟨role, device⟩ := request
      rw [List.filterMap_cons]
      cases hc : captured? ts (role, device) with
      | none => exact ih.cons role
      | some found =>
        have hrole : found.1 = role := by
          cases device with
          | pipe => simp [captured?] at hc
          | terminal n =>
            simp only [captured?] at hc
            split at hc <;> simp at hc
            rw [← hc]
        simpa [hrole] using ih.cons_cons role
  rw [hroles]
  refine (hkept _).trans ?_
  cases ho : options.includeOutput <;> cases he : options.includeError <;>
    simp [requested, ho, he]

end SavedModes

-- What else happens to terminals: others change their attributes, streams are captured and restored, a
-- terminal is hung up, and calls to come are made to fail. A restoring names what it gives back by the
-- number of captures that have succeeded before that one.
inductive ModeOperation where
  | assign (n : Nat) (a : Attributes)
  | capture (streams : Streams) (options : CaptureOptions)
  | restore (number : Nat)
  | hangUp (n : Nat)
  | planGets (n : Nat) (plan : Plan)
  | planSets (n : Nat) (plan : Plan)
  deriving DecidableEq, Repr

-- Terminals, and what has been saved from them so far, oldest first.
structure ModeHistory where
  terminals : Terminals
  saves : List SavedModes

namespace ModeHistory

def change (h : ModeHistory) (n : Nat) (t : Terminal) : ModeHistory :=
  { h with terminals := h.terminals.update n t }

def perform (h : ModeHistory) : ModeOperation → ModeHistory
  | .assign n a =>
    let t := h.terminals n
    if t.hungUp then h else h.change n { t with attributes := a.accepted }
  | .capture streams options =>
    match SavedModes.capture streams options h.terminals with
    | (.error _, ts) => { h with terminals := ts }
    | (.ok modes, ts) => ⟨ts, h.saves ++ [modes]⟩
  | .restore number =>
    match h.saves[number]? with
    | none => h
    | some modes => { h with terminals := (modes.restore h.terminals).2 }
  | .hangUp n => h.change n { h.terminals n with hungUp := true }
  | .planGets n plan =>
    let t := h.terminals n
    h.change n { t with getPlan := t.getPlan ++ plan }
  | .planSets n plan =>
    let t := h.terminals n
    h.change n { t with setPlan := t.setPlan ++ plan }

def performAll (h : ModeHistory) (operations : List ModeOperation) : ModeHistory :=
  operations.foldl perform h

theorem saves_perform (h : ModeHistory) (operation : ModeOperation) :
    h.saves <+: (h.perform operation).saves := by
  cases operation with
  | assign n a =>
    simp only [perform]
    split <;> exact List.prefix_rfl
  | capture streams options =>
    simp only [perform]
    split
    · exact List.prefix_rfl
    · exact List.prefix_append _ _
  | restore number =>
    simp only [perform]
    split <;> exact List.prefix_rfl
  | hangUp n => exact List.prefix_rfl
  | planGets n plan => exact List.prefix_rfl
  | planSets n plan => exact List.prefix_rfl

theorem saves_performAll (h : ModeHistory) (operations : List ModeOperation) :
    h.saves <+: (h.performAll operations).saves := by
  induction operations generalizing h with
  | nil => exact List.prefix_rfl
  | cons operation rest ih => exact (h.saves_perform operation).trans (ih (h.perform operation))

end ModeHistory

namespace SavedModes

-- What restoring modes does to the terminals as they are `now`, if they were saved from terminals as they
-- were `before`.
structure Undoes (before now : Terminals) (modes : SavedModes) : Prop where
  -- Each saved stream is attempted once, in order, and fails as its own terminal has it.
  attempted : ∀ i, (attempts modes now)[i]? = modes[i]?.map fun saved =>
    (saved, (now saved.terminal).failureAfter (attemptsOn (modes.take i) saved.terminal))
  succeeded : (modes.restore now).1 = .ok () ↔ ∀ call ∈ attempts modes now, call.2 = none
  failed : ∀ err, (modes.restore now).1 = .error err →
    err.failures = (attempts modes now).filterMap fun call => call.2.map fun e => (call.1.role, e)
  -- One attempt that does not fail is enough for a terminal.
  given : ∀ saved, (saved, none) ∈ attempts modes now → (modes.restore now).2 saved.terminal =
    { (now saved.terminal).afterCalls (attemptsOn modes saved.terminal) with
      attributes := (before saved.terminal).attributes.norm }
  untouched : ∀ n, (∀ saved, (saved, none) ∈ attempts modes now → saved.terminal ≠ n) →
    (modes.restore now).2 n = (now n).afterCalls (attemptsOn modes n)
  -- Restoring again finds nothing to change.
  repeated : (modes.restore now).1 = .ok () → ∀ n,
    (modes.restore (modes.restore now).2).2 n =
      ((modes.restore now).2 n).afterCalls (attemptsOn modes n)

theorem SavedFrom.undoes {before : Terminals} {modes : SavedModes} (h : SavedFrom before modes)
    (now : Terminals) : Undoes before now modes := by
  have hgiven : ∀ saved, (saved, none) ∈ attempts modes now →
      ((putBack modes now).2 saved.terminal).attributes =
        (before saved.terminal).attributes.norm :=
    fun saved hcall => attributes_putBack h hcall
  refine ⟨getElem?_attempts modes now, restore_eq_ok_iff modes now,
    fun err => failures_of_restore, ?_, ?_, ?_⟩
  · intro saved hcall
    rw [← hgiven saved hcall]
    exact putBack_eq_afterCalls modes now saved.terminal
  · intro n hn
    have hframe := putBack_eq_afterCalls modes now n
    rwa [attributes_putBack_of_failed hn] at hframe
  · intro hok n
    have hframe := putBack_eq_afterCalls modes (putBack modes now).2 n
    suffices hsame : ((putBack modes (putBack modes now).2).2 n).attributes =
        ((putBack modes now).2 n).attributes by
      rwa [hsame] at hframe
    by_cases hn : ∃ saved ∈ modes, saved.terminal = n
    · obtain ⟨saved, hmem, rfl⟩ := hn
      have hcall : (saved, none) ∈ attempts modes now := by
        rw [← map_fst_attempts modes now] at hmem
        obtain ⟨call, hcall, rfl⟩ := List.mem_map.mp hmem
        rwa [← (restore_eq_ok_iff modes now).mp hok call hcall]
      rw [hgiven saved hcall]
      exact attributes_putBack_of_settled h (hgiven saved hcall)
    · rw [putBack_of_forall_ne _ fun saved hmem heq => hn ⟨saved, hmem, heq⟩]

-- However the history goes on after a capture, what it has saved stays, and restoring it gives every
-- terminal the attributes that it had before the capture, as far as one reading and one setting keep them
-- and an attempt on it does not fail. The streams are those that were asked for and are terminals.
theorem restore_undoes_capture {streams : Streams} {options : CaptureOptions} {ts ts₁ : Terminals}
    {modes : SavedModes} (h : capture streams options ts = (.ok modes, ts₁))
    (older : List SavedModes) (operations : List ModeOperation) :
    let later := (ModeHistory.mk ts₁ (older ++ [modes])).performAll operations
    later.saves[older.length]? = some modes ∧
      modes.map (fun saved => (saved.role, saved.terminal)) =
        (requested streams options).filterMap (captured? ts) ∧
      (modes.map SavedMode.role).Sublist [.input, .output, .error] ∧
      Undoes ts later.terminals modes := by
  intro later
  obtain ⟨ts₂, hsave⟩ := saveAll_of_capture h
  refine ⟨?_, captured_of_saveAll hsave, roles_sublist_of_capture h,
    (savedFrom_of_saveAll hsave).undoes later.terminals⟩
  obtain ⟨added, hadded⟩ := (ModeHistory.mk ts₁ (older ++ [modes])).saves_performAll operations
  rw [← hadded, List.append_assoc, List.getElem?_append_right (Nat.le_refl _)]
  simp

-- Two streams of terminal 0 and one of terminal 1 are captured. Terminal 0 is given other attributes,
-- terminal 1 is captured and restored on its own and then hung up, and one more call is made to fail:
-- the attempt that is left for terminal 0 is enough.
theorem restore_undoes_capture_past_failures :
    let ts : Terminals := fun _ => { attributes := { Attributes.standard with iflag := 0x8500 } }
    let first := capture ⟨.terminal 0, .terminal 0, .terminal 1⟩ ⟨false, true, true⟩ ts
    let modes : SavedModes := [⟨.input, 0, Attributes.standard⟩, ⟨.output, 0, Attributes.standard⟩,
      ⟨.error, 1, Attributes.standard⟩]
    let later := (ModeHistory.mk first.2 ([] ++ [modes])).performAll
      [.assign 0 ⟨1, 2, 3, 4, 5, 6, { kill := '\x18' }, 9⟩,
        .capture ⟨.terminal 1, .pipe, .pipe⟩ ⟨true, false, false⟩, .restore 1,
        .hangUp 1, .planSets 0 [Errno.badDescriptor]]
    first.1 = .ok modes ∧
      (modes.restore later.terminals).1 =
        .error ⟨[(.input, Errno.badDescriptor), (.error, Errno.inputOutput)]⟩ ∧
      (later.terminals 0).attributes.lflag = 4 ∧
      ((modes.restore later.terminals).2 0).attributes = { Attributes.standard with iflag := 0x500 } := by
  intro ts first modes later
  have hsome : first.1.toOption = some modes := by decide +kernel
  have hfirst : first.1 = .ok modes := by
    cases hf : first.1 with
    | error err => simp [hf, Except.toOption] at hsome
    | ok saved => simpa [hf, Except.toOption] using hsome
  have hundoes : Undoes ts later.terminals modes :=
    (restore_undoes_capture (Prod.ext hfirst rfl : first = (_, first.2)) []
      [.assign 0 ⟨1, 2, 3, 4, 5, 6, { kill := '\x18' }, 9⟩,
        .capture ⟨.terminal 1, .pipe, .pipe⟩ ⟨true, false, false⟩, .restore 1,
        .hangUp 1, .planSets 0 [Errno.badDescriptor]]).2.2.2
  have hcalls : attempts modes later.terminals =
      [(⟨.input, 0, Attributes.standard⟩, some Errno.badDescriptor),
        (⟨.output, 0, Attributes.standard⟩, none),
        (⟨.error, 1, Attributes.standard⟩, some Errno.inputOutput)] := by decide +kernel
  refine ⟨hfirst, ?_, by decide +kernel, ?_⟩
  · cases hr : (modes.restore later.terminals).1 with
    | ok done =>
      have hnone := hundoes.succeeded.mp hr
      simp [hcalls] at hnone
    | error err =>
      have hfailures := hundoes.failed err hr
      rw [hcalls] at hfailures
      rw [show err = ⟨err.failures⟩ from rfl, hfailures]
      rfl
  · have hlast := hundoes.given ⟨.output, 0, Attributes.standard⟩ (by simp [hcalls])
    rw [hlast]
    decide

end SavedModes

end TermBridge
