import Mathlib.Data.List.Basic
import TermBridge.Proofs.Session.Uses

namespace TermBridge.OutputCalls

variable {mode : MouseMode} {s s' final : State} {a : Action} {actions past future : List Action} {e : Errno}

-- What has been read and what has been returned so far

theorem allReturned_concat (past : List Action) (a : Action) :
    allReturned (past ++ [a]) = allReturned past ++ a.bytesReturned := by
  simp [allReturned]

theorem allRead_concat (past : List Action) (a : Action) :
    allRead (past ++ [a]) = allRead past ++ a.bytesRead := by
  simp [allRead]

theorem delivered_eq_allRead (h : ∀ a ∈ past, a.isEnd = false) : delivered past = allRead past := by
  have hpast : ∀ a ∈ past, (!a.isEnd) = true := fun a ha => by simp [h a ha]
  have hall : past.takeWhile (!·.isEnd) = past := by
    rw [← List.append_nil past, List.takeWhile_append_of_pos hpast]
    simp
  rw [delivered, hall, allRead]

theorem delivered_of_open (h : ∀ a ∈ past, a.isEnd = false) :
    delivered (past ++ [a]) = delivered past ++ a.bytesRead := by
  cases hend : a.isEnd with
  | true =>
    have hpast : ∀ b ∈ past, (!b.isEnd) = true := fun b hb => by simp [h b hb]
    rw [(Action.bare_of_isEnd hend).read, List.append_nil, delivered_eq_allRead h, delivered,
      List.takeWhile_append_of_pos hpast]
    simp [hend, allRead]
  | false =>
    have hall : ∀ b ∈ past ++ [a], b.isEnd = false := by simpa [or_imp, forall_and, hend] using h
    rw [delivered_eq_allRead hall, allRead_concat, delivered_eq_allRead h]

theorem delivered_of_over (h : ∃ a ∈ past, a.isEnd = true) (future : List Action) :
    delivered (past ++ future) = delivered past := by
  induction past with
  | nil => simp at h
  | cons a rest ih =>
    cases hend : a.isEnd with
    | true => simp [delivered, hend]
    | false =>
      have hrest : ∃ a ∈ rest, a.isEnd = true := by simpa [hend] using h
      simpa [delivered, hend] using ih hrest

-- The output goes on.
structure Open (mode : MouseMode) (past : List Action) (s : State) : Prop where
  sound : Sound mode s
  running : s.ended = false
  before : ∀ a ∈ past, a.isEnd = false
  nonempty : s.point ≠ .returning (.ok [])
  account : allReturned past ++ s.rest =
    (State.opened mode).front ++ delivered past ++ (State.opened mode).back

-- It has ended. An endpoint without sequences is no further than the return that says so.
structure Over (mode : MouseMode) (past : List Action) (s : State) : Prop where
  sound : Sound mode s
  ended : s.ended = s.framed
  after : ∃ a ∈ past, a.isEnd = true
  asked : s.point.asked = false
  front : s.front = []
  unframed : s.framed = false → s.point = .returning (.ok [])
  back : s.point = .returning (.ok []) → s.back = []
  read : delivered past = allRead past
  account : allReturned past ++ s.rest =
    (State.opened mode).front ++ delivered past ++ (State.opened mode).back

theorem open_opened (mode : MouseMode) : Open mode [] (.opened mode) := by
  refine ⟨sound_opened mode, ?_, by simp, ?_, ?_⟩
  · cases mode <;> rfl
  · cases mode <;> exact nofun
  · have hpoint : (State.opened mode).point = .idle := rfl
    simp [allReturned, delivered, State.rest, hpoint]

theorem Open.account_step (ho : Open mode past s) (h : Step s a s') :
    allReturned (past ++ [a]) ++ s'.rest =
      (State.opened mode).front ++ delivered (past ++ [a]) ++ (State.opened mode).back := by
  have haccount := ho.account
  rw [delivered_of_open ho.before, allReturned_concat, List.append_assoc, h.account ho.sound]
  cases hasked : s.point.asked with
  | false => rw [h.bytesRead_eq_nil hasked, List.nil_append, List.append_nil, haccount]
  | true =>
    have hrest : s.rest = (State.opened mode).back := by
      simp [State.rest, Point.due_of_asked hasked, ho.sound.front hasked, ho.sound.back ho.running]
    rw [hrest] at haccount ⊢
    rw [List.append_cancel_right haccount]
    simp

theorem Open.step (ho : Open mode past s) (h : Step s a s') :
    Open mode (past ++ [a]) s' ∨ Over mode (past ++ [a]) s' := by
  have haccount := ho.account_step h
  have hsound := h.sound ho.sound
  cases hend : a.isEnd with
  | true =>
    obtain ⟨n, hp, rfl⟩ := h.of_isEnd hend
    have hn := ho.sound.room n hp
    refine .inr ⟨hsound, rfl, ⟨a, by simp, hend⟩, rfl, ?_, fun hframed => ?_, fun hnone => ?_, ?_, haccount⟩
    · exact ho.sound.front (Point.asked_of_waiting hp)
    · have hback := ho.sound.back ho.running
      rw [back_of_unframed (ho.sound.framed.symm.trans hframed)] at hback
      simp [State.atEnd, State.readBack, hback]
    · exact State.back_readBack_of_empty hn hnone
    · rw [delivered_of_open ho.before, delivered_eq_allRead ho.before, allRead_concat]
  | false =>
    refine .inl ⟨hsound, (h.ended_eq hend).trans ho.running, ?_, ?_, haccount⟩
    · simpa [or_imp, forall_and, hend] using ho.before
    · cases h.move with
      | set half stop => exact ho.nonempty
      | front hn hp hf =>
        simp only [ne_eq, Point.returning.injEq, Except.ok.injEq, List.take_eq_nil_iff, hf, or_false]
        omega
      | back hn hp hf he => exact Bool.noConfusion (he.symm.trans ho.running)
      | finished hp ha => exact Bool.noConfusion (ha.symm.trans hend)
      | ask | found | again | taken | failed | returned =>
        intro hreturned
        cases hreturned

-- The first return of no bytes ends what is said of an endpoint without sequences.
theorem Over.step (ho : Over mode past s) (h : Step s a s')
    (hlast : s.framed = true ∨ a ≠ .returned (.ok [])) : Over mode (past ++ [a]) s' := by
  have hafter : ∃ b ∈ past ++ [a], b.isEnd = true := by
    obtain ⟨b, hb, hend⟩ := ho.after
    exact ⟨b, List.mem_append_left _ hb, hend⟩
  have haccount : allReturned (past ++ [a]) ++ s'.rest =
      (State.opened mode).front ++ delivered (past ++ [a]) ++ (State.opened mode).back := by
    rw [delivered_of_over ho.after, allReturned_concat, List.append_assoc, h.account ho.sound,
      h.bytesRead_eq_nil ho.asked, List.nil_append, ho.account]
  have hread : delivered (past ++ [a]) = allRead (past ++ [a]) := by
    rw [delivered_of_over ho.after, ho.read, allRead_concat, h.bytesRead_eq_nil ho.asked, List.append_nil]
  have hsound := h.sound ho.sound
  have hasked := ho.asked
  -- an endpoint that stays at its end has a last sequence
  have hframed : ∀ p, s.point = p → p ≠ .returning (.ok []) → s.framed = true := by
    intro p hp hne
    cases hf : s.framed with
    | true => rfl
    | false => exact False.elim (hne (hp.symm.trans (ho.unframed hf)))
  cases h.move with
  | set half stop =>
    exact ⟨hsound, ho.ended, hafter, hasked, ho.front, ho.unframed, ho.back, hread, haccount⟩
  | front hn hp hf => exact False.elim (hf ho.front)
  | ask hn hp hf he =>
    have htrue := hframed _ hp (by simp)
    rw [ho.ended, htrue] at he
    cases he
  | @back n hn hp hf he =>
    have htrue := hframed _ hp (by simp)
    refine ⟨hsound, ho.ended, hafter, rfl, ho.front, fun hfalse => ?_, fun hnone => ?_, hread,
      haccount⟩
    · exact Bool.noConfusion (htrue.symm.trans hfalse)
    · exact State.back_readBack_of_empty hn hnone
  | found hp => simp [hp, Point.asked] at hasked
  | taken hp => simp [hp, Point.asked] at hasked
  | again hp | finished hp | failed hp => simp [Point.asked_of_waiting hp] at hasked
  | @returned result hp =>
    have htrue : s.framed = true := by
      rcases hlast with htrue | hne
      · exact htrue
      · exact hframed _ hp fun hnone => hne (by cases hnone; rfl)
    exact ⟨hsound, ho.ended, hafter, rfl, ho.front, fun hfalse => Bool.noConfusion (htrue.symm.trans hfalse),
      fun hreturned => Point.noConfusion hreturned, hread, haccount⟩

theorem open_or_over (h : Trace Step (.opened mode) actions s)
    (hlast : mode = .auto → .returned (.ok []) ∉ actions) : Open mode actions s ∨ Over mode actions s := by
  refine h.invariant_past
    (fun past s => (mode = .auto → .returned (.ok []) ∉ past) → Open mode past s ∨ Over mode past s)
    (fun {past s a s'} hstep ih hlast => ?_) (fun _ => .inl (open_opened mode)) hlast
  simp only [List.mem_append, List.mem_singleton, not_or] at hlast
  rcases ih fun hmode => (hlast hmode).1 with ho | ho
  · exact ho.step hstep
  · refine .inr (ho.step hstep ?_)
    cases mode with
    | auto => exact .inr fun ha => (hlast rfl).2 ha.symm
    | force => exact .inl ho.sound.framed

theorem around_eq (mode : MouseMode) (output : Bytes) :
    around mode output = (State.opened mode).front ++ output ++ (State.opened mode).back := by
  cases mode with
  | auto => simp [around, State.opened, State.ofOutput, SessionOutput.ofMaster]
  | force => rfl

theorem allReturned_part (h : Trace Step (.opened mode) actions s)
    (hlast : mode = .auto → .returned (.ok []) ∉ actions) :
    allReturned actions <+: around mode (delivered actions) := by
  refine ⟨s.rest, ?_⟩
  rw [around_eq]
  rcases open_or_over h hlast with ho | ho
  · exact ho.account
  · exact ho.account

-- An endpoint returns no bytes when its output has ended and all has been returned.
theorem allReturned_of_end
    (h : Trace Step (.opened mode) (past ++ .returned (.ok []) :: future) final)
    (hlast : mode = .auto → .returned (.ok []) ∉ past) :
    (∃ a ∈ past, a.isEnd = true) ∧ allReturned past = around mode (delivered past) := by
  obtain ⟨s, s', hrun, hreturned, -⟩ := h.exists_at
  have hpoint := hreturned.point_of_returned
  rcases open_or_over hrun hlast with ho | ho
  · exact False.elim (ho.nonempty hpoint)
  · have haccount := ho.account
    rw [State.rest, hpoint, ho.front, ho.back hpoint, ← around_eq] at haccount
    exact ⟨ho.after, by simpa using haccount⟩

theorem delivered_of_trace (h : Trace Step (.opened mode) actions s)
    (hlast : mode = .auto → .returned (.ok []) ∉ actions) : delivered actions = allRead actions := by
  rcases open_or_over h hlast with ho | ho
  · exact delivered_eq_allRead ho.before
  · exact ho.read

-- An output that is neither stopped nor fails is read to its last byte.

def resultBytes : Except Errno Bytes → Bytes
  | .ok bytes => bytes
  | .error _ => []

theorem allReturned_eq (actions : List Action) :
    allReturned actions = (actions.filterMap Action.result?).flatMap resultBytes := by
  rw [List.filterMap_eq_flatMap_toList, List.flatMap_assoc, allReturned]
  congr 1
  funext a
  cases a with
  | returned result => cases result <;> simp [Action.bytesReturned, Action.result?, resultBytes]
  | set | call | poll | read => rfl

theorem bytesReturned_eq (uses : List Use) :
    uses.flatMap Use.bytesReturned = (uses.filterMap Use.result?).flatMap resultBytes := by
  rw [List.filterMap_eq_flatMap_toList, List.flatMap_assoc]
  congr 1
  funext use
  cases use with
  | read n result => cases result <;> simp [Use.bytesReturned, Use.result?, resultBytes]
  | halt | output | hangUp => rfl

theorem returned_of_result {uses : List Use}
    (h : actions.filterMap Action.result? = uses.filterMap Use.result?) {result : Except Errno Bytes}
    (ha : .returned result ∈ actions) :
    ∃ use ∈ uses, use.result? = some result := by
  have hmem : result ∈ actions.filterMap Action.result? := List.mem_filterMap.mpr ⟨_, ha, rfl⟩
  rw [h] at hmem
  exact List.mem_filterMap.mp hmem

-- An output that is neither stopped nor fails is read to its last byte.
theorem read_whole {m : MasterSide} {uses : List Use} {n : Nat} {u : InUse} (hfresh : m.stop = .fresh)
    (h : Trace InUse.Step (.opened mode m) (uses ++ [.read n (.bytes [])]) u)
    (hfirst : mode = .auto → ∀ k, .read k (.bytes []) ∉ uses) (hstop : .halt ∉ uses)
    (hplan : Errno.inputOutput ∉ m.readPlan) :
    uses.flatMap Use.bytesReturned = around mode (m.waiting ++ uses.flatMap Use.bytesGiven) ∧
      u.output.master.hungUp = true ∧ u.output.master.waiting = [] := by
  obtain ⟨before, after, hbefore, hread, hnil⟩ := h.exists_at
  cases hnil
  cases hread with
  | @read n result o hn hb hread =>
    obtain ⟨actions, hp⟩ := exists_performed hfresh hbefore
    obtain ⟨calls, hc⟩ := hp.called hn hb
    have hrun := hp.run.append hc.run
    have hkept := hp.terminal.answered hc.answered
    rw [hread] at hrun hkept
    have hresults : (actions ++ calls).filterMap Action.result? = uses.filterMap Use.result? := by
      rw [List.filterMap_append, hc.results, List.append_nil, hp.results]
    have hlast : mode = .auto → .returned (.ok []) ∉ actions ++ calls := by
      intro hmode hmem
      obtain ⟨use, huse, hresult⟩ := returned_of_result hresults hmem
      cases use with
      | read k result =>
        cases result <;> cases hresult
        exact hfirst hmode k huse
      | halt | output | hangUp => cases hresult
    obtain ⟨⟨a, ha, hends⟩, hbytes⟩ := allReturned_of_end (hrun.concat (.returned rfl)) hlast
    have hreasons := (hkept.grounds a ha).of_isEnd hends
    obtain ⟨hup, hnone⟩ := (hreasons.resolve_left hstop).resolve_left hplan
    have hall := hkept.bytes
    rw [hnone, List.append_nil] at hall
    refine ⟨?_, hup, hnone⟩
    rw [hall, ← delivered_of_trace hrun hlast, ← hbytes, allReturned_eq, bytesReturned_eq, hresults]

-- Failures

theorem Sound.of_trace (h : Trace Step (.opened mode) actions s) : Sound mode s :=
  h.invariant (Sound mode) Step.sound (sound_opened mode)

theorem head_ofReader {result : Except Errno Bytes} (h : Trace Step s actions final)
    (hp : s.point = .returning result) (ha : (ofReader actions).head? = some a) :
    a = .returned result := by
  induction h with
  | nil s => cases ha
  | @cons s s' s'' b rest first others ih =>
    cases first.move with
    | set half stop => exact ih hp (by simpa [ofReader, Action.isSet] using ha)
    | returned hq =>
      rw [hp] at hq
      cases hq
      simpa [ofReader, Action.isSet] using ha.symm
    | front hn hq | back hn hq | ask hn hq | found hq | taken hq =>
      rw [hp] at hq
      cases hq
    | again hq | finished hq | failed hq =>
      rw [hp] at hq
      rcases hq with hq | hq <;> cases hq

theorem ofReader_concat (ha : a.isSet = false) : ofReader (past ++ [a]) = ofReader past ++ [a] := by
  simp [ofReader, ha]

theorem ofReader_concat_set (ha : a.isSet = true) : ofReader (past ++ [a]) = ofReader past := by
  simp [ofReader, ha]

theorem getLast_ofReader (h : Trace Step (.opened mode) actions s)
    (hp : s.point = .returning (.error e)) :
    ∃ a, (ofReader actions).getLast? = some a ∧ a.failure = some e := by
  refine h.invariant_past
    (fun past s => s.point = .returning (.error e) →
      ∃ a, (ofReader past).getLast? = some a ∧ a.failure = some e)
    (fun {past s a s'} hstep ih hp => ?_) nofun hp
  cases hstep.move with
  | set half stop =>
    rw [ofReader_concat_set rfl]
    exact ih hp
  | failed hq hfail =>
    cases hp
    exact ⟨a, by simp [ofReader_concat (Action.bare_of_failure hfail).set], hfail⟩
  | front | back | ask | found | again | finished | taken | returned => cases hp

-- The last sequence is untouched when a failure is returned.
theorem of_failure_returned
    (h : Trace Step (.opened mode) (past ++ .returned (.error e) :: future) final) :
    (∃ a, (ofReader past).getLast? = some a ∧ a.failure = some e) ∧
      ((mode = .auto → .returned (.ok []) ∉ past) →
        allReturned past = (State.opened mode).front ++ delivered past) := by
  obtain ⟨s, s', hrun, hreturned, -⟩ := h.exists_at
  have hpoint := hreturned.point_of_returned
  have hsound := Sound.of_trace hrun
  have hasked : s.point.asked = true := by rw [hpoint]; rfl
  have hback := hsound.back (hsound.running hasked)
  refine ⟨getLast_ofReader hrun hpoint, fun hlast => ?_⟩
  rcases open_or_over hrun hlast with ho | ho
  · have haccount := ho.account
    rw [State.rest, hpoint, hsound.front hasked, hback] at haccount
    exact List.append_cancel_right (by simpa using haccount)
  · exact Bool.noConfusion (ho.asked.symm.trans hasked)

-- The stop signal

structure Halted (mode : MouseMode) (start : State) (past : List Action) (s : State) : Prop where
  sound : Sound mode s
  requested : s.stop.Requested
  point : ∀ n, s.point ≠ .reading n
  reads : ∀ a ∈ past, a.isRead = false
  account : allReturned past ++ s.rest = start.rest

theorem Action.bytesRead_of_not_isRead (ha : a.isRead = false) : a.bytesRead = [] := by
  cases a with
  | read => cases ha
  | _ => rfl

theorem Halted.step {start : State} (hh : Halted mode start past s) (h : Step s a s') :
    Halted mode start (past ++ [a]) s' := by
  obtain ⟨hread, hpoint⟩ := h.not_reading hh.requested hh.point
  refine ⟨h.sound hh.sound, h.requested hh.requested, hpoint, ?_, ?_⟩
  · simpa [or_imp, forall_and, hread] using hh.reads
  · rw [allReturned_concat, List.append_assoc, h.account hh.sound, Action.bytesRead_of_not_isRead hread,
      List.nil_append, hh.account]

theorem requested_of_mem (h : Trace Step s past s') (hw : .set .write ∈ past) : s'.stop.Requested := by
  obtain ⟨before, after, rfl⟩ := List.append_of_mem hw
  obtain ⟨owing, told, -, hwrite, hafter⟩ := h.exists_at
  exact hafter.invariant (·.stop.Requested) Step.requested hwrite.requested_of_write

-- A call that is made when the stop byte is there gets what is left of the sequences.
theorem of_call_stopped {n : Nat} (h : Trace Step (.opened mode) (past ++ .call n :: future) final)
    (hw : .set .write ∈ past) :
    (∀ a ∈ future, a.isRead = false) ∧
      ∃ front back, front <:+ (State.opened mode).front ∧ back <:+ (State.opened mode).back ∧
        allReturned future <+: front ++ back := by
  obtain ⟨s, hpast, hfuture⟩ := h.exists_between
  have hsound := Sound.of_trace hpast
  have hidle : s.point = .idle := by
    cases hfuture with
    | cons hcall _ => exact hcall.idle_of_call
  have hpoint : ∀ n, s.point ≠ .reading n := by
    rw [hidle]
    exact nofun
  have hstart : Halted mode s [] s := ⟨hsound, requested_of_mem hpast hw, hpoint, by simp, rfl⟩
  have hhalted := hfuture.invariant_past (Halted mode s) (fun hstep hh => hh.step hstep) hstart
  refine ⟨fun a ha => hhalted.reads a (List.mem_cons_of_mem _ ha), s.front, s.back, hsound.frontPart,
    hsound.backPart, final.rest, ?_⟩
  have hrest : s.rest = s.front ++ s.back := by simp [State.rest, hidle]
  rw [← hrest]
  exact hhalted.account

-- Waiting

-- A run with the same end and the same to show, in which no call is interrupted and no read comes too early.
structure Quiet (start : State) (actions quiet : List Action) (s : State) : Prop where
  run : Trace Step start quiet s
  passing : ∀ a ∈ quiet, a.isPassing = false
  shows : quiet.filter Action.shows = actions.filter Action.shows

variable {start : State} {quiet : List Action}

theorem Quiet.concat (hq : Quiet start actions quiet s) (h : Step s a s') (ha : a.isPassing = false) :
    Quiet start (actions ++ [a]) (quiet ++ [a]) s' where
  run := hq.run.concat h
  passing := by simpa [or_imp, forall_and, ha] using hq.passing
  shows := by rw [List.filter_append, List.filter_append, hq.shows]

theorem Quiet.skip (hq : Quiet start actions quiet s) (ha : a.shows = false) :
    Quiet start (actions ++ [a]) quiet s where
  run := hq.run
  passing := hq.passing
  shows := by simp [hq.shows, ha]

theorem exists_quiet (h : Trace Step (.opened mode) actions s) :
    ∃ quiet, Quiet (.opened mode) actions quiet s := by
  have hboth := h.invariant_past
    (fun past s => (∃ quiet, Quiet (.opened mode) past quiet s) ∧
      ∀ n, s.point = .reading n → ∃ quiet, Quiet (.opened mode) past quiet { s with point := .polling n })
    (fun {past s a s'} hstep ih => ?_) ⟨⟨[], .nil _, by simp, rfl⟩, nofun⟩
  · exact hboth.1
  · obtain ⟨⟨quiet, hq⟩, hback⟩ := ih
    cases hstep.move with
    | set half stop =>
      refine ⟨⟨_, hq.concat hstep rfl⟩, fun n hn => ?_⟩
      obtain ⟨polled, hpolled⟩ := hback n hn
      cases hstep with
      | set hset => exact ⟨_, hpolled.concat (.set hset) rfl⟩
    | @found n hp =>
      refine ⟨⟨_, hq.concat hstep rfl⟩, fun m hm => ⟨quiet, ?_⟩⟩
      cases hm
      have hsame : { s with point := .polling n } = s := by rw [← hp]
      rw [hsame]
      exact hq.skip rfl
    | @again n a hp ha =>
      refine ⟨?_, nofun⟩
      have hshows := Action.shows_of_isPassing ha
      rcases hp with hp | hp
      · have hsame : { s with point := .polling n } = s := by rw [← hp]
        rw [hsame]
        exact ⟨quiet, hq.skip hshows⟩
      · obtain ⟨polled, hpolled⟩ := hback n hp
        exact ⟨polled, hpolled.skip hshows⟩
    | finished hp ha => exact ⟨⟨_, hq.concat hstep (Action.isPassing_of_isEnd ha)⟩, nofun⟩
    | failed hp ha => exact ⟨⟨_, hq.concat hstep (Action.isPassing_of_failure ha)⟩, nofun⟩
    | front | back | ask | taken | returned => exact ⟨⟨_, hq.concat hstep rfl⟩, nofun⟩

-- What holds of every way of reading an output, however the stop signal comes in between.
structure Faithful (mode : MouseMode) (actions : List Action) (s : State) : Prop where
  part : (mode = .auto → .returned (.ok []) ∉ actions) →
    allReturned actions <+: around mode (delivered actions)
  -- The first return of no bytes tells that the output has ended, and that all of it has been returned.
  bytes : ∀ past future, actions = past ++ .returned (.ok []) :: future →
    (mode = .auto → .returned (.ok []) ∉ past) →
    (∃ a ∈ past, a.isEnd = true) ∧ allReturned past = around mode (delivered past)
  -- Interruptions, and reads that find nothing, leave no trace.
  waits : ∃ quiet, Quiet (.opened mode) actions quiet s
  -- A call behind the stop byte does not read the terminal, and has only the sequences to return.
  stopped : ∀ past n future, actions = past ++ .call n :: future → .set .write ∈ past →
    (∀ a ∈ future, a.isRead = false) ∧
      ∃ front back, front <:+ (State.opened mode).front ∧ back <:+ (State.opened mode).back ∧
        allReturned future <+: front ++ back
  -- Any other failure is what the call returns, and nothing else is returned as a failure.
  reported : ∀ past a future e, actions = past ++ a :: future → a.failure = some e →
    ∀ b, (ofReader future).head? = some b → b = .returned (.error e)
  failed : ∀ past future e, actions = past ++ .returned (.error e) :: future →
    (∃ a, (ofReader past).getLast? = some a ∧ a.failure = some e) ∧
      ((mode = .auto → .returned (.ok []) ∉ past) →
        allReturned past = (State.opened mode).front ++ delivered past)

-- However an output is read and stopped, the reader gets it whole and in its frame. The endpoint of a session
-- makes such runs, one call after another, and its terminal answers them: an output that is neither stopped
-- nor fails is read to its last byte.
theorem output_faithful :
    (∀ mode actions s, Trace Step (.opened mode) actions s → Faithful mode actions s) ∧
    (∀ (o : SessionOutput) (n : Nat), 0 < n → ∃ calls, Called n o (.ofOutput o) (.call n :: calls)) ∧
    (∀ o : SessionOutput,
      Trace Step (.ofOutput o) ((.swap :: if o.master.stop.pending then [] else [.write]).map .set)
        (.ofOutput o.halt)) ∧
    (∀ mode m uses u, m.stop = .fresh → Trace InUse.Step (.opened mode m) uses u →
      ∃ actions, Performed mode m uses u actions) ∧
    (∀ mode m uses n u, m.stop = .fresh →
      Trace InUse.Step (.opened mode m) (uses ++ [.read n (.bytes [])]) u →
      (mode = .auto → ∀ k, .read k (.bytes []) ∉ uses) → .halt ∉ uses →
      Errno.inputOutput ∉ m.readPlan →
      uses.flatMap Use.bytesReturned = around mode (m.waiting ++ uses.flatMap Use.bytesGiven) ∧
        u.output.master.hungUp = true ∧ u.output.master.waiting = []) := by
  refine ⟨fun mode actions s h => ⟨allReturned_part h, ?_, exists_quiet h, ?_, ?_, ?_⟩,
    fun o n hn => called_read hn o, trace_halt, fun mode m uses u hfresh h => exists_performed hfresh h,
    fun mode m uses n u hfresh h hfirst hstop hplan => read_whole hfresh h hfirst hstop hplan⟩
  · rintro past future rfl hlast
    exact allReturned_of_end h hlast
  · rintro past n future rfl hw
    exact of_call_stopped h hw
  · rintro past a future e rfl hfail b hb
    obtain ⟨before, after, -, hstep, hfuture⟩ := h.exists_at
    exact head_ofReader hfuture (hstep.point_of_failure hfail) hb
  · rintro past future e rfl
    exact of_failure_returned h

-- The stop byte comes between a poll that has found the output and the read behind it, and behind a read
-- that has found nothing. An endpoint that is not stopped gives all output, also what comes while it waits.
theorem output_faithful_of_late_stop :
    let past : List Action :=
      [.call 4, .returned (.ok (Mouse.enable.take 4)), .call 64, .returned (.ok (Mouse.enable.drop 4)),
        .call 8, .poll (.error Errno.interrupted), .poll (.ok .readable), .read (.error Errno.tryAgain),
        .poll (.ok .readable), .set .swap, .set .write, .read (.ok [104, 105]), .returned (.ok [104, 105]),
        .call 64, .poll (.ok .signalled), .returned (.ok Mouse.disable), .call 64]
    let m : MasterSide := { waiting := [104, 105], readPlan := [Errno.tryAgain] }
    let uses : List Use :=
      [.read 8 (.bytes [104, 105]), .read 8 .blocked, .output [33], .read 8 (.bytes [33]), .hangUp]
    (∃ s, Trace Step (.opened .force) (past ++ [.returned (.ok [])]) s ∧
      Faithful .force (past ++ [.returned (.ok [])]) s ∧
      allReturned past = Mouse.enable ++ [104, 105] ++ Mouse.disable) ∧
    ∃ u, Trace InUse.Step (.opened .auto m) (uses ++ [.read 8 (.bytes [])]) u ∧
      uses.flatMap Use.bytesReturned = around .auto (m.waiting ++ [33]) ∧ u.output.master.waiting = [] := by
  intro past m uses
  have hrun : ∃ s, Trace Step (.opened .force) (past ++ [.returned (.ok [])]) s := by
    have hopened : State.opened .force =
        { framed := true, front := Mouse.enable, back := Mouse.disable } := rfl
    have henable : Mouse.enable = [27, 91, 63, 49, 48, 48, 48, 104, 27, 91, 63, 49, 48, 48, 50, 104,
      27, 91, 63, 49, 48, 48, 54, 104] := by decide +kernel
    have hdisable : Mouse.disable = [27, 91, 63, 49, 48, 48, 54, 108, 27, 91, 63, 49, 48, 48, 50, 108,
      27, 91, 63, 49, 48, 48, 48, 108] := by decide +kernel
    have hfound : WakeupSignal.fresh.wakeOf true = some .readable := rfl
    have htold : WakeupSignal.wakeOf ⟨true, 1⟩ true = some .signalled := rfl
    simp only [past]
    rw [hopened, henable, hdisable]
    exact ⟨_, .cons (.call (by decide) rfl) (.cons (.returned rfl) (.cons (.call (by decide) rfl)
      (.cons (.returned rfl) (.cons (.call (by decide) rfl) (.cons (.pollFailed _ rfl)
      (.cons (.poll rfl hfound) (.cons (.readFailed _ rfl) (.cons (.poll rfl hfound)
      (.cons (.set (.swap rfl)) (.cons (.set (.write rfl)) (.cons (.read rfl (by decide))
      (.cons (.returned rfl) (.cons (.call (by decide) rfl) (.cons (.poll rfl htold)
      (.cons (.returned rfl) (.cons (.call (by decide) rfl) (.cons (.returned rfl)
      (.nil _))))))))))))))))))⟩
  obtain ⟨s, hrun⟩ := hrun
  have hfaithful := output_faithful.1 .force _ _ hrun
  obtain ⟨-, hbytes⟩ := hfaithful.bytes past [] rfl nofun
  have hread : InUse.Step (.opened .auto m) (.read 8 (.bytes [104, 105])) (.opened .auto {}) :=
    .read (by decide) nofun (by decide +kernel)
  have hwait : InUse.Step (.opened .auto {}) (.read 8 .blocked) ⟨.ofMaster .auto {}, some 8⟩ :=
    .read (by decide) nofun (by decide +kernel)
  have hcome : InUse.Step ⟨.ofMaster .auto {}, some 8⟩ (.output [33])
      ⟨.ofMaster .auto { waiting := [33] }, some 8⟩ := .output [33] rfl
  have hmore : InUse.Step ⟨.ofMaster .auto { waiting := [33] }, some 8⟩ (.read 8 (.bytes [33]))
      (.opened .auto {}) := .read (by decide) (by simp) (by decide +kernel)
  have hgone : InUse.Step (.opened .auto {}) .hangUp (.opened .auto { hungUp := true }) := .hangUp
  have hend : InUse.Step (.opened .auto { hungUp := true }) (.read 8 (.bytes []))
      (.opened .auto { hungUp := true }) := .read (by decide) nofun (by decide +kernel)
  have huses : Trace InUse.Step (.opened .auto m) (uses ++ [.read 8 (.bytes [])])
      (.opened .auto { hungUp := true }) :=
    .cons hread (.cons hwait (.cons hcome (.cons hmore (.cons hgone (.cons hend (.nil _))))))
  obtain ⟨hall, -, hnone⟩ :=
    output_faithful.2.2.2.2 .auto m uses 8 _ rfl huses (by simp [uses]) (by simp [uses]) (by decide)
  exact ⟨⟨s, hrun, hfaithful, hbytes⟩, _, huses, hall, hnone⟩

end TermBridge.OutputCalls
