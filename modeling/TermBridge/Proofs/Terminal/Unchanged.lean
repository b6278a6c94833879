import TermBridge.Proofs.Terminal.Restore

namespace TermBridge

namespace Terminals

theorem hungUp_put (ts : Terminals) (n m : Nat) (a : Attributes) :
    ((ts.put n a).2 m).hungUp = (ts m).hungUp := by
  by_cases hm : m = n
  · subst hm
    rcases put_cases ts m a with ⟨e, h⟩ | h <;> simp [h]
  · rw [put_of_ne ts a hm]

end Terminals

namespace SavedModes

open Terminals

variable {streams : Streams} {allowNonTtys : Bool} {ts ts' : Terminals} {err : ModeError}

-- No call on the attributes hangs a terminal up.

theorem hungUp_saveOne (allowNonTtys : Bool) (role : StreamRole) (device : StreamDevice) (ts : Terminals)
    (m : Nat) : ((saveOne allowNonTtys role device ts).2 m).hungUp = (ts m).hungUp := by
  cases device with
  | pipe => rfl
  | terminal n =>
    have hg := hungUp_get ts n m
    unfold saveOne
    dsimp only
    split
    · rfl
    · split
      next h => rwa [h] at hg
      next h => rwa [h] at hg

theorem hungUp_of_saveOne {role : StreamRole} {device : StreamDevice} {answer : Except ModeError SavedModes}
    (h : saveOne allowNonTtys role device ts = (answer, ts')) (m : Nat) : (ts' m).hungUp = (ts m).hungUp := by
  have hs := hungUp_saveOne allowNonTtys role device ts m
  rwa [h] at hs

theorem hungUp_saveAll (allowNonTtys : Bool) (streams : List (StreamRole × StreamDevice)) (ts : Terminals)
    (m : Nat) : ((saveAll allowNonTtys streams ts).2 m).hungUp = (ts m).hungUp := by
  fun_induction saveAll allowNonTtys streams ts with
  | case1 ts => rfl
  | case2 role device rest ts err ts₁ hone => exact hungUp_of_saveOne hone m
  | case3 role device rest ts first ts₁ hone err ts₂ hall ih =>
    rw [hall] at ih
    exact ih.trans (hungUp_of_saveOne hone m)
  | case4 role device rest ts first ts₁ hone others ts₂ hall ih =>
    rw [hall] at ih
    exact ih.trans (hungUp_of_saveOne hone m)

theorem hungUp_of_makeRaw {role : StreamRole} {n : Nat} {answer : Option ModeError}
    (h : makeRaw role n ts = (answer, ts')) (m : Nat) : (ts' m).hungUp = (ts m).hungUp := by
  have hget := hungUp_get ts n m
  unfold makeRaw at h
  split at h
  next e ts₁ hg =>
    obtain ⟨-, rfl⟩ := Prod.mk.inj h
    rwa [hg] at hget
  next a ts₁ hg =>
    rw [hg] at hget
    have hput := hungUp_put ts₁ n m (a.raw role)
    split at h
    next e ts₂ hp =>
      obtain ⟨-, rfl⟩ := Prod.mk.inj h
      rw [hp] at hput
      exact hput.trans hget
    next ts₂ hp =>
      obtain ⟨-, rfl⟩ := Prod.mk.inj h
      rw [hp] at hput
      exact hput.trans hget

theorem hungUp_putBack (modes : SavedModes) (ts : Terminals) (m : Nat) :
    ((putBack modes ts).2 m).hungUp = (ts m).hungUp := by
  rw [putBack_eq_afterCalls]
  rfl

theorem hungUp_switchAll (switched modes : SavedModes) (ts : Terminals) (m : Nat) :
    ((switchAll switched modes ts).2 m).hungUp = (ts m).hungUp := by
  fun_induction switchAll switched modes ts with
  | case1 switched ts => rfl
  | case2 switched saved rest ts err ts₁ hraw =>
    exact (hungUp_putBack switched ts₁ m).trans (hungUp_of_makeRaw hraw m)
  | case3 switched saved rest ts ts₁ hraw ih => exact ih.trans (hungUp_of_makeRaw hraw m)

theorem hungUp_capture (streams : Streams) (options : CaptureOptions) (ts : Terminals) (m : Nat) :
    ((capture streams options ts).2 m).hungUp = (ts m).hungUp := by
  have hsave := hungUp_saveAll options.allowNonTtys (requested streams options) ts m
  unfold capture
  split
  next err ts₁ h => rwa [h] at hsave
  next modes ts₁ h =>
    rw [h] at hsave
    have hswitch := hungUp_switchAll [] modes ts₁ m
    split
    next err ts₂ h' =>
      rw [h'] at hswitch
      exact hswitch.trans hsave
    next ts₂ h' =>
      rw [h'] at hswitch
      exact hswitch.trans hsave

-- A capture of one stream that fails has switched none.
theorem switched_of_input_only (h : (progress streams { allowNonTtys := allowNonTtys } ts).failure = some err) :
    (progress streams { allowNonTtys := allowNonTtys } ts).switched = [] := by
  unfold progress at h ⊢
  split
  next => rfl
  next modes ts₁ hsave =>
    rw [hsave] at h
    have hlength : modes.length ≤ 1 := by
      have hmap := congrArg List.length (captured_of_saveAll hsave)
      rw [List.length_map] at hmap
      exact hmap ▸ List.length_filterMap_le _ _
    cases modes with
    | nil => simp [switching] at h
    | cons saved rest =>
      obtain rfl : rest = [] := List.length_eq_zero_iff.mp (by simpa using hlength)
      cases hraw : makeRaw saved.role saved.terminal ts₁ with
      | mk failure ts₂ =>
        cases failure with
        | some err' => simp [switching, hraw]
        | none => simp [switching, hraw] at h

theorem attributes_of_failed_capture
    (h : capture streams { allowNonTtys := allowNonTtys } ts = (.error err, ts')) (n : Nat) :
    (ts' n).attributes = (ts n).attributes := by
  rw [capture_eq_outcome] at h
  obtain ⟨hfailure, rfl⟩ := Progress.eq_of_outcome_eq_error h
  have hnone := switched_of_input_only hfailure
  rw [hnone]
  exact attributes_progress (by simp [hnone])

end SavedModes

end TermBridge
