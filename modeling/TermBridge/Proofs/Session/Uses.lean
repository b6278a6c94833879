import TermBridge.Proofs.Session.Terminal

namespace TermBridge.OutputCalls

variable {m : MasterSide} {o : SessionOutput} {n : Nat} {calls : List Action}

def returns : ReadResult → List Action
  | .bytes bytes => [.returned (.ok bytes)]
  | .failed e => [.returned (.error e)]
  | .blocked => []

theorem Answered.of_own (h : ∀ a ∈ calls, a.isAnswered = false) (m : MasterSide) : Answered m calls m := by
  have hread : allRead calls = [] := by
    refine List.flatMap_eq_nil_iff.mpr fun a ha => ?_
    have hown := h a ha
    cases a with
    | poll | read => cases hown
    | set | call | returned => rfl
  exact ⟨by simp [hread], rfl, rfl, List.suffix_rfl, List.suffix_rfl, fun a ha => .other (h a ha)⟩

-- What has become of a terminal. Its output is read or waits, and what ends it has been done or was planned.
structure Kept (m : MasterSide) (uses : List Use) (now : MasterSide) (actions : List Action) : Prop where
  bytes : m.waiting ++ uses.flatMap Use.bytesGiven = allRead actions ++ now.waiting
  stop : now.stop.readable = true → .halt ∈ uses
  pollPlan : now.pollPlan <:+ m.pollPlan
  readPlan : now.readPlan <:+ m.readPlan
  grounds : ∀ a ∈ actions,
    Grounds (.halt ∈ uses) m.pollPlan m.readPlan (now.hungUp = true ∧ now.waiting = []) a

section Kept

variable {uses : List Use} {now next : MasterSide} {actions : List Action}

theorem Kept.answered (h : Kept m uses now actions) (ha : Answered now calls next) :
    Kept m uses next (actions ++ calls) where
  bytes := by
    rw [h.bytes, ha.bytes, allRead_append, List.append_assoc]
  stop := fun hr => h.stop (ha.stop ▸ hr)
  pollPlan := ha.pollPlan.trans h.pollPlan
  readPlan := ha.readPlan.trans h.readPlan
  grounds := by
    intro a hmem
    rcases List.mem_append.mp hmem with hpast | hcalls
    · exact (h.grounds a hpast).imp id List.suffix_rfl List.suffix_rfl
        (And.imp ha.hungUp.trans ha.nothing_left)
    · exact (ha.grounds a hcalls).imp h.stop h.pollPlan h.readPlan (And.imp_left ha.hungUp.trans)

-- A use that gives no bytes and leaves the output at its end where it was there.
theorem Kept.use (h : Kept m uses now actions) {use : Use} (hgiven : use.bytesGiven = [])
    (hstop : next.stop.readable = true → .halt ∈ uses ++ [use]) (hpolls : next.pollPlan = now.pollPlan)
    (hreads : next.readPlan = now.readPlan) (hwaiting : next.waiting = now.waiting)
    (hup : now.hungUp = true → next.hungUp = true) : Kept m (uses ++ [use]) next actions where
  bytes := by simpa [hgiven, hwaiting] using h.bytes
  stop := hstop
  pollPlan := hpolls ▸ h.pollPlan
  readPlan := hreads ▸ h.readPlan
  grounds := fun a ha => (h.grounds a ha).imp (List.mem_append_left _) List.suffix_rfl List.suffix_rfl
    (And.imp hup hwaiting.trans)

theorem Kept.output (h : Kept m uses now actions) (hup : now.hungUp = false) (bytes : Bytes) :
    Kept m (uses ++ [.output bytes]) { now with waiting := now.waiting ++ bytes } actions where
  bytes := by
    rw [List.flatMap_append, ← List.append_assoc, h.bytes]
    simp [Use.bytesGiven]
  stop := fun hr => List.mem_append_left _ (h.stop hr)
  pollPlan := h.pollPlan
  readPlan := h.readPlan
  grounds := fun a ha => (h.grounds a ha).imp (List.mem_append_left _) List.suffix_rfl List.suffix_rfl
    fun hdrained => Bool.noConfusion (hup.symm.trans hdrained.1)

end Kept

-- What has been done with an endpoint, told as calls.
structure Performed (mode : MouseMode) (m : MasterSide) (uses : List Use) (u : InUse)
    (actions : List Action) : Prop where
  run : Trace Step (.opened mode) actions (.ofUse u)
  results : actions.filterMap Action.result? = uses.filterMap Use.result?
  terminal : Kept m uses u.output.master actions
  blocked : u.blocked.isSome = true → u.output.front.isEmpty = true ∧ u.output.ended = false

variable {mode : MouseMode} {uses : List Use} {u u' : InUse} {actions : List Action} {start : State}

theorem performed_opened (hfresh : m.stop = .fresh) : Performed mode m [] (.opened mode m) [] := by
  have hmaster : (InUse.opened mode m).output.master = m := by cases mode <;> rfl
  refine ⟨?_, rfl, ?_, by simp [InUse.opened]⟩
  · have hsame : State.ofUse (.opened mode m) = .opened mode := by
      cases mode <;>
        simp [State.ofUse, State.opened, State.ofOutput, InUse.opened, SessionOutput.ofMaster, hfresh]
    rw [hsame]
    exact .nil _
  · rw [hmaster]
    refine ⟨by simp [allRead], fun hr => ?_, List.suffix_rfl, List.suffix_rfl, by simp⟩
    rw [hfresh] at hr
    cases hr

-- A read that is blocked waits for the terminal.
theorem read_blocked (hn : n ≠ 0) (h : (o.read n).1 = .blocked) :
    (o.read n).2.front.isEmpty = true ∧ (o.read n).2.ended = false := by
  cases hfront : o.front.isEmpty with
  | false => simp [SessionOutput.read, hn, hfront] at h
  | true =>
    cases hended : o.ended with
    | true => simp [SessionOutput.read, SessionOutput.readBack, hn, hfront, hended] at h
    | false =>
      obtain ⟨-, hblocked⟩ := read_master hn hfront hended
      rcases hread : o.master.read n with ⟨result, master⟩
      rw [hread] at hblocked
      obtain rfl : result = .blocked := hblocked.mp h
      simp [SessionOutput.read, hn, hfront, hended, hread]

theorem Performed.called (hp : Performed mode m uses u actions) (hn : 0 < n) (hb : ∀ k ∈ u.blocked, k = n) :
    ∃ calls, Called n u.output (.ofUse u) calls := by
  rcases u with ⟨o, blocked⟩
  cases blocked with
  | none =>
    obtain ⟨calls, hcalled⟩ := called_read hn o
    exact ⟨.call n :: calls, hcalled⟩
  | some k =>
    obtain rfl := hb k rfl
    obtain ⟨hfront, hended⟩ := hp.blocked rfl
    exact called_of_polling hn hfront hended

theorem trace_returns (n : Nat) (o : SessionOutput) (result : ReadResult) :
    Trace Step (.afterResult n o result) (returns result) (.ofUse (.afterRead n o result)) := by
  cases result with
  | bytes | failed => exact .cons (.returned rfl) (.nil _)
  | blocked => exact .nil _

theorem InUse.output_afterRead (n : Nat) (o : SessionOutput) (result : ReadResult) :
    (afterRead n o result).output = o := by
  cases result <;> rfl

theorem Called.results (hc : Called n o start calls) : calls.filterMap Action.result? = [] := by
  rw [List.filterMap_eq_nil_iff]
  exact fun a ha => (hc.inside a ha).2

theorem Performed.read (hp : Performed mode m uses u actions) (hn : 0 < n)
    (hc : Called n u.output (.ofUse u) calls) :
    Performed mode m (uses ++ [.read n (u.output.read n).1])
      (.afterRead n (u.output.read n).2 (u.output.read n).1)
      (actions ++ calls ++ returns (u.output.read n).1) := by
  have hreturns : ∀ result, ∀ a ∈ returns result, a.isAnswered = false := by
    rintro (bytes | e | _) <;> simp [returns, Action.isAnswered]
  refine ⟨?_, ?_, ?_, ?_⟩
  · exact (hp.run.append hc.run).append (trace_returns n _ _)
  · rw [List.filterMap_append, List.filterMap_append, List.filterMap_append, hp.results, hc.results]
    cases (u.output.read n).1 <;> simp [returns, Action.result?, Use.result?]
  · rw [InUse.output_afterRead]
    have hkept := (hp.terminal.answered hc.answered).answered (.of_own (hreturns (u.output.read n).1) _)
    exact hkept.use rfl (fun hr => List.mem_append_left _ (hkept.stop hr)) rfl rfl rfl id
  · intro hblocked
    rw [InUse.output_afterRead]
    refine read_blocked (Nat.ne_of_gt hn) ?_
    cases hread : (u.output.read n).1 with
    | blocked => rfl
    | bytes | failed =>
      rw [hread] at hblocked
      cases hblocked

theorem Performed.step (hp : Performed mode m uses u actions) {use : Use} (h : u.Step use u') :
    ∃ actions', Performed mode m (uses ++ [use]) u' actions' := by
  cases h with
  | @read n result o hn hb hread =>
    obtain ⟨calls, hc⟩ := hp.called hn hb
    have hafter := hp.read hn hc
    rw [hread] at hafter
    exact ⟨_, hafter⟩
  | halt =>
    have hsets := trace_set (s := .ofUse u) (Stopping.of_set u.output.master.stop)
    generalize (Stopping.Half.swap :: if u.output.master.stop.pending then [] else [.write]) = halves at hsets
    have hown : Answered u.output.master (halves.map .set) u.output.master :=
      .of_own (by simp [Action.isAnswered]) _
    have hkept := hp.terminal.answered hown
    refine ⟨_, hp.run.append hsets, ?_, hkept.use rfl (fun _ => List.mem_concat_self) rfl rfl rfl id,
      hp.blocked⟩
    have hnone : (halves.map Action.set).filterMap Action.result? = [] := by
      rw [List.filterMap_map, List.filterMap_eq_nil_iff]
      exact fun half _ => rfl
    rw [List.filterMap_append, List.filterMap_append, hp.results, hnone]
    rfl
  | output bytes hup =>
    refine ⟨actions, hp.run, ?_, hp.terminal.output hup bytes, hp.blocked⟩
    rw [List.filterMap_append, hp.results]
    exact (List.append_nil _).symm
  | hangUp =>
    have hstop : (u.withMaster { u.output.master with hungUp := true }).output.master.stop.readable = true →
        Use.halt ∈ uses ++ [.hangUp] := fun hr => List.mem_append_left _ (hp.terminal.stop hr)
    refine ⟨actions, hp.run, ?_, hp.terminal.use rfl hstop rfl rfl rfl fun _ => rfl, hp.blocked⟩
    rw [List.filterMap_append, hp.results]
    exact (List.append_nil _).symm

theorem exists_performed (hfresh : m.stop = .fresh) (h : Trace InUse.Step (.opened mode m) uses u) :
    ∃ actions, Performed mode m uses u actions :=
  h.invariant_past (fun uses u => ∃ actions, Performed mode m uses u actions)
    (fun hstep hp => hp.elim fun _ hp => hp.step hstep) ⟨[], performed_opened hfresh⟩

end TermBridge.OutputCalls
