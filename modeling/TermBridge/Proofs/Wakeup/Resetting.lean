import Mathlib.Algebra.Ring.Nat
import TermBridge.Proofs.Wakeup.Watch
import TermBridge.Wakeup.Resetting

namespace TermBridge

namespace Trace

variable {State Action : Type} {step : State → Action → State → Prop} {s s' : State} {past : List Action}

-- What every step pays for, out of what is due before it and what it earns, a whole run pays for.
theorem sum_le (due : State → Nat) (spent earned : Action → Nat) (h : Trace step s past s')
    (hstep : ∀ {s a s'}, a ∈ past → step s a s' → spent a + due s' ≤ due s + earned a) :
    (past.map spent).sum + due s' ≤ due s + (past.map earned).sum := by
  induction h with
  | nil s => simp
  | @cons s s' s'' a rest first _ ih =>
    have hfirst := hstep List.mem_cons_self first
    have hrest := ih fun hmem => hstep (List.mem_cons_of_mem a hmem)
    simp only [List.map_cons, List.sum_cons]
    omega

end Trace

namespace WakeupSignal

variable {s next : WakeupSignal} {plan rest : Plan} {answer : ReadAnswer}

theorem pending_read (h : s.read plan = (answer, next, rest)) : next.pending = s.pending := by
  unfold read at h
  split at h
  · cases h
    rfl
  · split at h <;> cases h <;> rfl

theorem bytes_pos_of_goesOn (h : s.read plan = (answer, next, rest)) (hg : answer.goesOn = true)
    (hi : answer ≠ .failed Errno.interrupted) : 0 < answer.bytes := by
  unfold read at h
  split at h
  next e rest hnext =>
    cases h
    have he : e = Errno.interrupted := by simpa [ReadAnswer.goesOn] using hg
    exact absurd (by rw [he]) hi
  next rest hnext =>
    split at h
    · cases h
      exact Bool.noConfusion hg
    next hbytes =>
      cases h
      simp only [ReadAnswer.bytes, readSize]
      omega

end WakeupSignal

namespace Resetting

variable {s s' : Resetting} {a : Action} {actions : List Action}

def totalRead (actions : List Action) : Nat :=
  (actions.map Action.bytesRead).sum

-- How many bytes can still be written before the flag is cleared: one by each call that is on its way, and
-- one by the next call that finds the flag down.
def writesDue (s : Resetting) : Nat :=
  s.owing + if s.signal.pending then 0 else 1

-- How many reads are still made that take nothing.
def Point.readsDue : Point → Nat
  | .draining => 1
  | .clearing | .cleared => 0

theorem Point.readsDue_afterRead (answer : WakeupSignal.ReadAnswer) :
    (afterRead answer).readsDue = answer.goesOn.toNat := by
  cases hg : answer.goesOn <;> simp [afterRead, hg, readsDue]

namespace Step

theorem writes (h : Step s a s') (hclear : a ≠ .clear) : a.isWrite.toNat + s'.writesDue = s.writesDue := by
  cases h with
  | swap => cases hp : s.signal.pending <;> simp [writesDue, WakeupSignal.swap, hp, Action.isWrite]
  | write howing =>
    simp only [Action.isWrite, writesDue, WakeupSignal.pending_writeByte, Bool.toNat_true]
    omega
  | read hp hr => simp [writesDue, Action.isWrite, WakeupSignal.pending_read hr]
  | clear hp => exact absurd rfl hclear

theorem bytes (h : Step s a s') :
    s'.signal.bytes + a.bytesRead ≤ s.signal.bytes + a.isWrite.toNat := by
  cases h with
  | swap => simp [WakeupSignal.swap, Action.bytesRead]
  | write howing =>
    simp only [WakeupSignal.writeByte, Action.bytesRead, Action.isWrite, Bool.toNat_true]
    split <;> simp
  | read hp hr =>
    have hread := WakeupSignal.bytes_read hr
    simp only [Action.bytesRead, Action.isWrite, Bool.toNat_false]
    omega
  | clear hp => simp [WakeupSignal.clear, Action.bytesRead]

theorem reads (h : Step s a s') :
    a.isRead.toNat + s'.point.readsDue ≤ s.point.readsDue + a.bytesRead := by
  cases h with
  | swap | write howing => simp [Action.isRead]
  | clear hp => simp [Action.isRead, Point.readsDue]
  | @read plan rest answer next hp hr =>
    have hdue : s.point.readsDue = 1 := by
      rw [hp]
      rfl
    have hread : (Action.read answer).isRead.toNat ≤ 1 := Bool.toNat_le _
    rw [hdue, Point.readsDue_afterRead, Action.bytesRead]
    cases hg : answer.goesOn with
    | false =>
      simp only [Bool.toNat_false]
      omega
    | true =>
      by_cases hi : answer = .failed Errno.interrupted
      · simp [Action.isRead, hi]
      · have hpos := WakeupSignal.bytes_pos_of_goesOn hr hg hi
        simp only [Bool.toNat_true]
        omega

end Step

-- All that happens before the clear.

theorem sum_toNat (p : Action → Bool) (actions : List Action) :
    (actions.map fun a => (p a).toNat).sum = actions.countP p := by
  induction actions with
  | nil => rfl
  | cons a rest ih => cases hp : p a <;> simp [hp, ih, Nat.add_comm]

theorem writes_le (h : Trace Step s actions s') (hclear : .clear ∉ actions) :
    actions.countP Action.isWrite + s'.writesDue ≤ s.writesDue := by
  have hsum := h.sum_le writesDue (fun a => a.isWrite.toNat) (fun _ => 0) fun hmem step =>
    Nat.le_of_eq (step.writes (ne_of_mem_of_not_mem hmem hclear))
  simpa [sum_toNat, List.map_const'] using hsum

theorem bytes_le (h : Trace Step s actions s') :
    s'.signal.bytes + totalRead actions ≤ s.signal.bytes + actions.countP Action.isWrite := by
  have hsum := h.sum_le (fun s => s.signal.bytes) Action.bytesRead (fun a => a.isWrite.toNat)
    fun _ step => by
      have hbytes := step.bytes
      omega
  rw [sum_toNat] at hsum
  rw [totalRead]
  omega

theorem reads_le (h : Trace Step s actions s') :
    actions.countP Action.isRead + s'.point.readsDue ≤ s.point.readsDue + totalRead actions := by
  have hsum := h.sum_le (fun s => s.point.readsDue) (fun a => a.isRead.toNat) Action.bytesRead
    fun _ step => step.reads
  rwa [sum_toNat] at hsum

-- With nothing in between the steps make up `reset`, whichever of its reads fail.
theorem trace_reset (signal : WakeupSignal) (plan : Plan) (owing : Nat) :
    Trace Step ⟨signal, owing, .draining⟩ ((signal.reads plan).map .read ++ [.clear])
      ⟨(signal.reset plan).1, owing, .cleared⟩ := by
  induction signal, plan using WakeupSignal.reads.induct with
  | case1 signal plan answer next rest hread ih =>
    have hfirst : Step ⟨signal, owing, .draining⟩ (.read answer) ⟨next, owing, .afterRead answer⟩ :=
      .read rfl hread
    rw [WakeupSignal.reads_of_read hread, List.map_cons, List.cons_append]
    refine .cons hfirst ?_
    cases hg : answer.goesOn with
    | true => simpa [WakeupSignal.reset, WakeupSignal.drain_of_read hread, Point.afterRead, hg] using ih hg
    | false =>
      simp only [WakeupSignal.reset, WakeupSignal.drain_of_read hread, Point.afterRead, hg,
        Bool.false_eq_true, if_false, List.map_nil, List.nil_append]
      exact .cons (.clear rfl) (.nil _)

-- From the beginning of a reset.

theorem writes_le_owing {signal : WakeupSignal} {owing : Nat}
    (h : Trace Step ⟨signal, owing, .draining⟩ actions s') (hclear : .clear ∉ actions) :
    actions.countP Action.isWrite ≤ 1 + owing := by
  have hwrites := writes_le h hclear
  have hdue : writesDue ⟨signal, owing, .draining⟩ ≤ owing + 1 := by
    simp only [writesDue]
    split <;> omega
  omega

theorem reads_le_bytes {signal : WakeupSignal} {owing : Nat}
    (h : Trace Step ⟨signal, owing, .draining⟩ actions s') (hclear : .clear ∉ actions) :
    actions.countP Action.isRead ≤ signal.bytes + owing + 2 := by
  have hwrites := writes_le_owing h hclear
  have hbytes := bytes_le h
  have hreads := reads_le h
  simp only [Point.readsDue] at hreads hbytes
  omega

-- However many calls of `set` come between the steps of a reset: until it clears the flag they write no
-- more bytes than one and those of the calls that were on their way, and the reset makes no more reads than
-- there are bytes to take and one that finds the pipe empty.
theorem reset_is_not_kept_busy {signal : WakeupSignal} {owing : Nat}
    (h : Trace Step ⟨signal, owing, .draining⟩ actions s') (hclear : .clear ∉ actions) :
    actions.countP Action.isWrite ≤ 1 + owing ∧
      s'.signal.bytes + totalRead actions ≤ signal.bytes + actions.countP Action.isWrite ∧
      actions.countP Action.isRead ≤ signal.bytes + owing + 2 :=
  ⟨writes_le_owing h hclear, bytes_le h, reads_le_bytes h hclear⟩

-- The pipe holds one byte and another one is on its way. Both bounds are reached, and a second set that is
-- made meanwhile writes nothing.
theorem reset_is_not_kept_busy_beyond_bounds :
    let actions : List Action := [.read (.took 1), .write, .read (.failed Errno.interrupted),
      .read (.took 1), .swap, .swap, .write, .read (.took 1), .read .empty]
    Trace Step ⟨⟨false, 1⟩, 1, .draining⟩ actions ⟨⟨true, 0⟩, 0, .clearing⟩ ∧ .clear ∉ actions ∧
      actions.countP Action.isWrite = 2 ∧ actions.countP Action.isRead = 4 ∧
      actions.countP Action.isWrite ≤ 1 + 1 ∧ actions.countP Action.isRead ≤ 1 + 1 + 2 := by
  intro actions
  have htake : ∀ pending, (⟨pending, 1⟩ : WakeupSignal).read [] = (.took 1, ⟨pending, 0⟩, []) :=
    fun _ => rfl
  have hempty : (⟨true, 0⟩ : WakeupSignal).read [] = (.empty, ⟨true, 0⟩, []) := rfl
  have hfail : (⟨false, 1⟩ : WakeupSignal).read [Errno.interrupted] =
      (.failed Errno.interrupted, ⟨false, 1⟩, []) := rfl
  have hrun : Trace Step ⟨⟨false, 1⟩, 1, .draining⟩ actions ⟨⟨true, 0⟩, 0, .clearing⟩ :=
    .cons (.read rfl (htake false)) (.cons (.write Nat.one_pos) (.cons (.read rfl hfail)
      (.cons (.read rfl (htake false)) (.cons .swap (.cons .swap (.cons (.write Nat.one_pos)
      (.cons (.read rfl (htake true)) (.cons (.read rfl hempty) (.nil _)))))))))
  have hclear : .clear ∉ actions := by decide
  have hbounds := reset_is_not_kept_busy hrun hclear
  exact ⟨hrun, hclear, by decide, by decide, hbounds.1, hbounds.2.2⟩

end Resetting

namespace Interleaving

variable {workers : Nat} {s s' : State workers} {a : Action workers} {actions : List (Action workers)}
  {r : Resetting}

def Action.isWrite : Action workers → Bool
  | .write _ => true
  | _ => false

def Action.isRead : Action workers → Bool
  | .read => true
  | _ => false

-- The calls that owe the pipe a byte.
structure Owed (s : State workers) (owed : List (Setter workers)) : Prop where
  nodup : owed.Nodup
  mem_iff : ∀ x, x ∈ owed ↔ s.call x = .writing

-- The reset that the main loop is in, with nothing of the setters but how many of them owe a byte.
structure Shows (s : State workers) (r : Resetting) : Prop where
  signal : r.signal = s.signal
  owing : ∃ owed, Owed s owed ∧ r.owing = owed.length
  point : (s.point = .draining ∧ r.point = .draining) ∨ (s.point = .clearing ∧ r.point = .clearing)

theorem Owed.swap {owed : List (Setter workers)} (h : Owed s owed) {x : Setter workers}
    (hc : s.call x = .waiting) :
    Owed (s.swap x) (if s.signal.pending then owed else x :: owed) := by
  have hnew : x ∉ owed := by
    intro hmem
    rw [h.mem_iff, hc] at hmem
    exact Call.noConfusion hmem
  cases hp : s.signal.pending with
  | true =>
    refine ⟨h.nodup, fun y => ?_⟩
    by_cases hy : y = x
    · subst hy
      simp [hnew, State.swap, State.setCall_self, WakeupSignal.swap, hp]
    · simpa [State.swap, State.setCall_of_ne hy] using h.mem_iff y
  | false =>
    refine ⟨List.nodup_cons.mpr ⟨hnew, h.nodup⟩, fun y => ?_⟩
    by_cases hy : y = x
    · subst hy
      simp [State.swap, State.setCall_self, WakeupSignal.swap, hp]
    · simpa [State.swap, State.setCall_of_ne hy, hy] using h.mem_iff y

theorem Owed.write {owed : List (Setter workers)} (h : Owed s owed) (x : Setter workers) :
    Owed (s.write x) (owed.erase x) := by
  refine ⟨h.nodup.erase x, fun y => ?_⟩
  rw [h.nodup.mem_erase_iff, h.mem_iff]
  by_cases hy : y = x
  · subst hy
    simp [State.write, State.setCall_self]
  · simp [State.write, State.setCall_of_ne hy, hy]

-- A step of the loop or of a setter is a step of the reset, or leaves the reset as it is.
theorem Shows.step (hs : Shows s r) (h : Step s a s') (hclear : a ≠ .clear) :
    (Shows s' r ∧ a.isWrite = false ∧ a.isRead = false) ∨
      ∃ b r', Resetting.Step r b r' ∧ b ≠ .clear ∧ Shows s' r' ∧ b.isWrite = a.isWrite ∧
        b.isRead = a.isRead := by
  obtain ⟨hsignal, ⟨owed, howed, hlength⟩, hpoint⟩ := hs
  cases h with
  | poll hp hr | query hp | checkDone hp hd | checkRunning hp hd =>
    rw [hp] at hpoint
    simp at hpoint
  | store hd | change hc =>
    exact .inl ⟨⟨hsignal, ⟨owed, ⟨howed.nodup, howed.mem_iff⟩, hlength⟩, hpoint⟩, rfl, rfl⟩
  | clear hp => exact absurd rfl hclear
  | read hp hr =>
    have hdraining : r.point = .draining := by simpa [hp] using hpoint
    have hbytes : s.signal.bytes ≠ 0 := by simpa [WakeupSignal.readable] using hr
    have hread : r.signal.read [] =
        (.took (min WakeupSignal.readSize s.signal.bytes), s.signal.readBytes, []) := by
      simp [WakeupSignal.read, Plan.next, hsignal, hbytes]
    exact .inr ⟨_, _, .read hdraining hread, by simp,
      ⟨rfl, ⟨owed, ⟨howed.nodup, howed.mem_iff⟩, hlength⟩, .inl ⟨hp, rfl⟩⟩, rfl, rfl⟩
  | readEmpty hp hr =>
    have hdraining : r.point = .draining := by simpa [hp] using hpoint
    have hempty : s.signal.bytes = 0 := (s.signal.readable_eq_false_iff).mp hr
    have hread : r.signal.read [] = (.empty, s.signal, []) := by
      simp [WakeupSignal.read, Plan.next, hsignal, hempty]
    exact .inr ⟨_, _, .read hdraining hread, by simp,
      ⟨rfl, ⟨owed, ⟨howed.nodup, howed.mem_iff⟩, hlength⟩, .inr ⟨rfl, rfl⟩⟩, rfl, rfl⟩
  | @swap x hb hc =>
    right
    refine ⟨.swap, _, .swap, by simp, ⟨?_, ⟨_, howed.swap hc, ?_⟩, hpoint⟩, rfl, rfl⟩
    · simp [hsignal, State.swap, State.setCall]
    · cases hp : s.signal.pending <;> simp [hsignal, WakeupSignal.swap, hp, hlength]
  | @write x hc =>
    right
    have hmem : x ∈ owed := (howed.mem_iff x).mpr hc
    have hpos : 0 < r.owing := hlength ▸ List.length_pos_of_mem hmem
    refine ⟨.write, _, .write hpos, by simp, ⟨?_, ⟨_, howed.write x, ?_⟩, hpoint⟩, rfl, rfl⟩
    · simp [hsignal, State.write, State.setCall]
    · simp [hlength, List.length_erase_of_mem hmem]

theorem Shows.run (hs : Shows s r) (h : Run s actions s') (hclear : .clear ∉ actions) :
    ∃ steps r', Trace Resetting.Step r steps r' ∧ .clear ∉ steps ∧ Shows s' r' ∧
      steps.countP Resetting.Action.isWrite = actions.countP Action.isWrite ∧
      steps.countP Resetting.Action.isRead = actions.countP Action.isRead := by
  induction h generalizing r with
  | nil s => exact ⟨[], r, .nil r, by simp, hs, rfl, rfl⟩
  | @cons s s' s'' a rest first _ ih =>
    rw [List.mem_cons, not_or] at hclear
    rcases hs.step first (Ne.symm hclear.1) with ⟨hs', hwrite, hread⟩ | ⟨b, r', hb, hne, hs', hwrite, hread⟩
    · obtain ⟨steps, final, htrace, hnone, hfinal, hwrites, hreads⟩ := ih hs' hclear.2
      exact ⟨steps, final, htrace, hnone, hfinal, by simp [hwrites, hwrite], by simp [hreads, hread]⟩
    · obtain ⟨steps, final, htrace, hnone, hfinal, hwrites, hreads⟩ := ih hs' hclear.2
      refine ⟨b :: steps, final, .cons hb htrace, ?_, hfinal, ?_, ?_⟩
      · simp [hnone, Ne.symm hne]
      · simp [List.countP_cons, hwrites, hwrite]
      · simp [List.countP_cons, hreads, hread]

-- So the loop is not kept busy either, in whatever state it begins to drain.
theorem Run.writes_and_reads_le {owed : List (Setter workers)} (h : Run s actions s') (hp : s.point = .draining)
    (howed : Owed s owed) (hclear : .clear ∉ actions) :
    actions.countP Action.isWrite ≤ 1 + owed.length ∧
      actions.countP Action.isRead ≤ s.signal.bytes + owed.length + 2 := by
  have hs : Shows s ⟨s.signal, owed.length, .draining⟩ := ⟨rfl, ⟨owed, howed, rfl⟩, .inl ⟨hp, rfl⟩⟩
  obtain ⟨steps, final, htrace, hnone, -, hwrites, hreads⟩ := hs.run h hclear
  rw [← hwrites, ← hreads]
  exact ⟨Resetting.writes_le_owing htrace hnone, Resetting.reads_le_bytes htrace hnone⟩

end Interleaving

end TermBridge
