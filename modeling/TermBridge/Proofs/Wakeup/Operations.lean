import TermBridge.Proofs.Wakeup.Steps

namespace TermBridge

namespace Plan

-- What is left of a plan without its interrupted calls.
def settled (plan : Plan) : Plan :=
  plan.filter (· ≠ Errno.interrupted)

theorem settled_cons_interrupted (plan : Plan) : settled (Errno.interrupted :: plan) = plan.settled := by
  simp [settled]

theorem settled_cons_of_ne {e : Errno} (h : e ≠ Errno.interrupted) (plan : Plan) :
    settled (e :: plan) = e :: plan.settled := by
  simp [settled, h]

theorem poll_fst {α : Type} (ready : Option α) (plan : Plan) :
    (plan.poll ready).1 =
      match plan.settled.next.1 with
      | some e => .failed e
      | none => ready.elim .blocked .ready := by
  induction plan with
  | nil => cases ready <;> rfl
  | cons e rest ih =>
    by_cases he : e = Errno.interrupted
    · subst he
      rw [settled_cons_interrupted, ← ih]
      simp [poll]
    · rw [settled_cons_of_ne he]
      cases hpass : e.passes with
      | false => simp [poll, he, hpass, next]
      | true => cases ready <;> simp [poll, he, hpass, next]

theorem next_suffix (plan : Plan) : plan.next.2 <:+ plan := by
  cases plan with
  | nil => exact List.suffix_rfl
  | cons e rest => exact List.suffix_cons e rest

theorem mem_of_next {plan : Plan} {e : Errno} (h : plan.next.1 = some e) : e ∈ plan := by
  cases plan with
  | nil => cases h
  | cons d rest =>
    simp only [next] at h
    split at h <;> cases h
    exact List.mem_cons_self

theorem poll_of_next_none {α : Type} {ready : Option α} {plan : Plan} (h : plan.next.1 = none) :
    plan.poll ready = (ready.elim .blocked .ready, plan.next.2) := by
  cases plan with
  | nil => cases ready <;> rfl
  | cons e rest =>
    have hpass : e.passes = true := by simpa [next] using h
    have he : e ≠ Errno.interrupted := by
      rintro rfl
      exact Bool.noConfusion hpass
    cases ready <;> simp [poll, he, hpass, next]

theorem settled_poll {α : Type} (ready : Option α) (plan : Plan) :
    (plan.poll ready).2.settled = plan.settled.drop 1 := by
  induction plan with
  | nil => rfl
  | cons e rest ih =>
    by_cases he : e = Errno.interrupted
    · subst he
      rw [settled_cons_interrupted, ← ih]
      simp [poll]
    · rw [settled_cons_of_ne he]
      cases hpass : e.passes <;> simp [poll, he, hpass]

theorem ne_interrupted_of_poll {α : Type} {ready : Option α} {plan : Plan} {e : Errno}
    (h : (plan.poll ready).1 = .failed e) : e ≠ Errno.interrupted := by
  rw [poll_fst] at h
  split at h
  next found hnext =>
    cases h
    have hmem : e ∈ plan.settled := by
      cases hp : plan.settled with
      | nil => simp [hp, next] at hnext
      | cons first rest =>
        rw [hp, next] at hnext
        split at hnext <;> simp_all
    simpa [settled] using (List.mem_filter.mp hmem).2
  next => cases ready <;> simp at h

theorem firstFailure_zero (plan : Plan) : plan.firstFailure 0 = none := rfl

theorem firstFailure_succ (n : Nat) (plan : Plan) :
    plan.firstFailure (n + 1) = plan.next.1.or (firstFailure n (plan.drop 1)) := by
  cases plan with
  | nil => simp [firstFailure, next]
  | cons e rest => cases hpass : e.passes <;> simp [firstFailure, next, hpass]

end Plan

namespace WakeupSignal

variable {s : WakeupSignal}

-- Whoever finds the flag up can rely on the byte.
def Sound (s : WakeupSignal) : Prop :=
  s.pending = true → s.readable = true

theorem sound_fresh : fresh.Sound := by
  intro h
  exact False.elim (Bool.false_ne_true h)

theorem pending_set (s : WakeupSignal) : s.set.pending = true := by
  cases hp : s.pending <;> simp [set, swap, hp, pending_writeByte]

theorem readable_set (h : s.Sound) : s.set.readable = true := by
  cases hp : s.pending with
  | true => simpa [set, swap, hp, readable] using h hp
  | false => simp [set, swap, hp, readable_writeByte]

theorem sound_set (h : s.Sound) : s.set.Sound :=
  fun _ => readable_set h

theorem set_of_pending (h : s.pending = true) : s.set = s := by
  cases s with
  | mk pending bytes =>
    simp only at h
    simp [set, swap, h]

theorem wakeOf_eq_none_iff {otherReadable : Bool} :
    s.wakeOf otherReadable = none ↔ s.readable = false ∧ otherReadable = false := by
  cases hs : s.readable <;> cases otherReadable <;> simp [wakeOf, hs]

end WakeupSignal

end TermBridge
