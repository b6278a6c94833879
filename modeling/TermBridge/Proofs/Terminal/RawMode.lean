import Mathlib.Data.Finset.Card
import Mathlib.Data.Finset.Insert
import TermBridge.Proofs.Terminal.Restore

namespace TermBridge

namespace Attributes

-- Flag words.

theorem or_and_distrib (a b mask : UInt32) : (a ||| b) &&& mask = a &&& mask ||| b &&& mask := by
  apply UInt32.toBitVec_inj.mp
  ext i
  simp [Bool.and_or_distrib_right]

theorem and_mask_absorb (a mask : UInt32) : a &&& mask &&& mask = a &&& mask := by
  rw [UInt32.and_assoc, UInt32.and_self]

theorem and_mask_comm (a mask other : UInt32) : a &&& mask &&& other = a &&& other &&& mask := by
  rw [UInt32.and_assoc, UInt32.and_comm mask, ← UInt32.and_assoc]

-- The terminal's own rule settles what a switch asks for in the control word.
theorem forcedControl_rawControl (a : Attributes) :
    forcedControl a.rawControl.cflag = forcedControl a.cflag := by
  have hmask : eightBits ||| parity = 0x130 := by decide
  simp only [forcedControl, rawControl, hmask, or_and_distrib, and_mask_absorb]
  rw [UInt32.or_assoc]
  rfl

theorem forcedControl_known (c : UInt32) :
    forcedControl (forcedControl c &&& 0xD00F1FFF) = forcedControl (c &&& 0xD00F1FFF) := by
  simp only [forcedControl, or_and_distrib]
  rw [and_mask_comm (c &&& _), and_mask_absorb, UInt32.or_assoc, and_mask_comm c]
  rfl

theorem forcedControl_eightBits (c : UInt32) : forcedControl c &&& eightBits = eightBits := by
  have hcleared : (~~~0x130 &&& eightBits : UInt32) = 0 := by decide
  rw [forcedControl, or_and_distrib, UInt32.and_assoc, hcleared, UInt32.and_zero]
  rfl

theorem forcedControl_parity (c : UInt32) : forcedControl c &&& parity = 0 := by
  have hkept : (~~~0x130 &&& parity : UInt32) = 0 := by decide
  rw [forcedControl, or_and_distrib, UInt32.and_assoc, hkept, UInt32.and_zero]
  rfl

-- A word with some of its bits turned off, if there is a reason to.
def clearIf (p : Prop) [Decidable p] (bits word : UInt32) : UInt32 :=
  if p then word &&& ~~~bits else word

theorem clearIf_clearIf (p q : Prop) [Decidable p] [Decidable q] (bits word : UInt32) :
    clearIf q bits (clearIf p bits word) = clearIf (p ∨ q) bits word := by
  by_cases hp : p <;> by_cases hq : q <;> simp [clearIf, hp, hq, and_mask_absorb]

theorem clearIf_and (p : Prop) [Decidable p] (bits word mask : UInt32) :
    clearIf p bits word &&& mask = clearIf p bits (word &&& mask) := by
  by_cases hp : p <;> simp [clearIf, hp, and_mask_comm word]

-- What a terminal holds after a stream of this role has been switched on it.
def switched (role : StreamRole) (a : Attributes) : Attributes :=
  (a.known.raw role).accepted

-- What a terminal holds that serves these roles in raw mode. Without a role it is left alone. Otherwise the
-- bits without a name are gone, the control word is as the terminal forces it, and of the rest the roles
-- change what they are there for and nothing else.
def switchedFor (roles : Finset StreamRole) (a : Attributes) : Attributes :=
  if roles = ∅ then a
  else
    let read := a.known
    { read with
      iflag := clearIf (.input ∈ roles)
        (breakInterrupt ||| returnToNewline ||| parityCheck ||| strip ||| startStop) read.iflag
      oflag := clearIf (.output ∈ roles ∨ .error ∈ roles) postprocess read.oflag
      cflag := forcedControl read.cflag
      lflag := clearIf (.input ∈ roles) (echo ||| canonical ||| extended ||| signals) read.lflag
      vmin := if .input ∈ roles then 1 else read.vmin
      vtime := if .input ∈ roles then 0 else read.vtime }

theorem switchedFor_empty (a : Attributes) : a.switchedFor ∅ = a := if_pos rfl

-- Reading what a switch has left drops nothing that the first reading kept, the control word apart.
theorem known_switchedFor {roles : Finset StreamRole} (h : roles ≠ ∅) (a : Attributes) :
    (a.switchedFor roles).known =
      { a.switchedFor roles with cflag := forcedControl a.known.cflag &&& 0xD00F1FFF } := by
  simp only [switchedFor, if_neg h, known, clearIf_and, and_mask_absorb]

theorem switchedFor_switchedFor (roles others : Finset StreamRole) (a : Attributes) :
    (a.switchedFor roles).switchedFor others = a.switchedFor (roles ∪ others) := by
  by_cases hroles : roles = ∅
  · rw [hroles, switchedFor_empty, Finset.empty_union]
  by_cases hothers : others = ∅
  · rw [hothers, switchedFor_empty, Finset.union_empty]
  have hunion : roles ∪ others ≠ ∅ := fun h => hroles (Finset.union_eq_empty.mp h).1
  have hcontrol : forcedControl (forcedControl a.known.cflag &&& 0xD00F1FFF) =
      forcedControl a.known.cflag := by
    rw [forcedControl_known]
    simp only [known, and_mask_absorb]
  conv_lhs => rw [switchedFor, if_neg hothers, known_switchedFor hroles]
  simp only [switchedFor, if_neg hroles, if_neg hunion, hcontrol, clearIf_clearIf, Finset.mem_union,
    Attributes.mk.injEq, true_and]
  refine ⟨?_, ?_, ?_⟩
  · simp only [or_or_or_comm]
  · by_cases hfirst : .input ∈ roles <;> by_cases hmore : .input ∈ others <;> simp [hfirst, hmore]
  · by_cases hfirst : .input ∈ roles <;> by_cases hmore : .input ∈ others <;> simp [hfirst, hmore]

theorem switched_eq_switchedFor (role : StreamRole) (a : Attributes) :
    a.switched role = a.switchedFor {role} := by
  have hcontrol : (a.switched role).cflag = forcedControl a.known.cflag := by
    cases role <;> exact forcedControl_rawControl a.known
  rw [switchedFor, if_neg (Finset.singleton_ne_empty role)]
  simp only [← hcontrol]
  cases role <;> simp [switched, raw, accepted, rawControl, clearIf]

end Attributes

namespace Terminal

-- A terminal on which streams of these roles have been switched, one after the other: a reading and a
-- setting each.
def switchedEach (roles : List StreamRole) (t : Terminal) : Terminal :=
  { t with
    attributes := t.attributes.switchedFor roles.toFinset
    getPlan := t.getPlan.drop roles.length
    setPlan := t.setPlan.drop roles.length }

theorem switchedEach_nil (t : Terminal) : t.switchedEach [] = t := by
  simp [switchedEach, Attributes.switchedFor_empty]

theorem switchedEach_cons (role : StreamRole) (rest : List StreamRole) (t : Terminal) :
    t.switchedEach (role :: rest) = (t.switchedEach [role]).switchedEach rest := by
  simp only [switchedEach, Attributes.switchedFor_switchedFor, List.drop_drop, List.length_cons,
    List.length_nil, List.toFinset_cons, List.toFinset_nil, Nat.add_comm]
  rw [insert_empty_eq, Finset.singleton_union]

end Terminal

namespace Terminals

variable {ts ts' : Terminals} {n : Nat} {a : Attributes}

theorem update_update (ts : Terminals) (n : Nat) (t t' : Terminal) :
    (ts.update n t).update n t' = ts.update n t' := by
  funext m
  by_cases hm : m = n <;> simp [update, hm]

theorem put_of_succeeded (h : ts.put n a = (none, ts')) :
    ts' = ts.update n { ts n with setPlan := (ts n).setPlan.drop 1, attributes := a.accepted } := by
  rcases put_cases ts n a with ⟨e, hput⟩ | hput <;> rw [hput, Prod.mk.injEq] at h
  · exact absurd h.1 (by simp)
  · exact h.2.symm

end Terminals

namespace SavedModes

open Terminals

variable {ts ts' : Terminals} {modes : SavedModes} {role : StreamRole} {n : Nat}

theorem makeRaw_of_switched (h : makeRaw role n ts = (none, ts')) :
    ts' = ts.update n ((ts n).switchedEach [role]) := by
  have hread := get_snd ts n
  unfold makeRaw at h
  split at h
  next e ts₁ hget => simp at h
  next a ts₁ hget =>
    obtain rfl := eq_known_of_get hget
    split at h
    next e ts₂ hput => simp at h
    next ts₂ hput =>
      simp only [hget] at hread
      simp only [Prod.mk.injEq, true_and] at h
      rw [← h, put_of_succeeded hput, hread, update_update, update_self]
      simp [Terminal.switchedEach, ← Attributes.switched_eq_switchedFor, Attributes.switched]

-- The roles of the saved streams of one terminal, in the order they were saved.
def rolesInOrder (modes : SavedModes) (n : Nat) : List StreamRole :=
  (modes.filter (·.terminal = n)).map (·.role)

theorem switchAll_of_succeeded {switched : SavedModes} (h : switchAll switched modes ts = (none, ts'))
    (n : Nat) : ts' n = (ts n).switchedEach (rolesInOrder modes n) := by
  fun_induction switchAll switched modes ts with
  | case1 switched ts =>
    simp only [Prod.mk.injEq, true_and] at h
    rw [← h]
    exact (Terminal.switchedEach_nil _).symm
  | case2 switched saved rest ts err ts₁ hraw => simp at h
  | case3 switched saved rest ts ts₁ hraw ih =>
    rw [ih h, makeRaw_of_switched hraw]
    by_cases hn : saved.terminal = n
    · subst hn
      rw [update_self, ← Terminal.switchedEach_cons]
      simp [rolesInOrder]
    · rw [update_of_ne _ _ (Ne.symm hn)]
      simp [rolesInOrder, hn]

-- A saved stream has taken one reading of its terminal, and a stream that was left alone none.
theorem saveOne_of_succeeded {allowNonTtys : Bool} {device : StreamDevice}
    (h : saveOne allowNonTtys role device ts = (.ok modes, ts')) (n : Nat) :
    ts' n = { ts n with getPlan := (ts n).getPlan.drop (rolesInOrder modes n).length } := by
  have hleft : ∀ refused : Except ModeError SavedModes,
      refused = (if allowNonTtys then .ok [] else .error (.notATty role)) →
      (refused, ts) = (.ok modes, ts') →
      ts' n = { ts n with getPlan := (ts n).getPlan.drop (rolesInOrder modes n).length } := by
    intro refused hrefused hanswer
    simp only [Prod.mk.injEq] at hanswer
    rw [eq_nil_of_refused (hrefused.symm.trans hanswer.1), ← hanswer.2]
    simp [rolesInOrder]
  cases device with
  | pipe => exact hleft _ rfl h
  | terminal m =>
    unfold saveOne at h
    dsimp only at h
    split at h
    · exact hleft _ rfl h
    · have hread := get_snd ts m
      split at h
      next a ts₁ hget =>
        simp only [Prod.mk.injEq, Except.ok.injEq] at h
        simp only [hget] at hread
        rw [← h.1, ← h.2, hread]
        by_cases hm : n = m
        · subst hm
          simp [rolesInOrder]
        · simp [rolesInOrder, hm, Ne.symm hm]
      next => simp at h

theorem saveAll_of_succeeded {allowNonTtys : Bool} {streams : List (StreamRole × StreamDevice)}
    (h : saveAll allowNonTtys streams ts = (.ok modes, ts')) (n : Nat) :
    ts' n = { ts n with getPlan := (ts n).getPlan.drop (rolesInOrder modes n).length } := by
  fun_induction saveAll allowNonTtys streams ts generalizing modes ts' with
  | case1 ts =>
    simp only [Prod.mk.injEq, Except.ok.injEq] at h
    rw [← h.1, ← h.2]
    simp [rolesInOrder]
  | case2 role device rest ts err ts₁ hone => simp at h
  | case3 role device rest ts first ts₁ hone err ts₂ hall ih => simp at h
  | case4 role device rest ts first ts₁ hone others ts₂ hall ih =>
    simp only [Prod.mk.injEq, Except.ok.injEq] at h
    rw [← h.1, ← h.2, ih hall, saveOne_of_succeeded hone]
    simp [rolesInOrder, List.drop_drop]

-- Calls on one terminal in a capture that succeeds: a reading for each stream to save it, and a reading and
-- a setting to switch it.
theorem capture_of_succeeded {streams : Streams} {options : CaptureOptions}
    (h : capture streams options ts = (.ok modes, ts')) (n : Nat) :
    ts' n = ({ ts n with getPlan := (ts n).getPlan.drop (rolesInOrder modes n).length } : Terminal).switchedEach
      (rolesInOrder modes n) := by
  unfold capture at h
  split at h
  next => simp at h
  next saved ts₁ hsave =>
    split at h
    next => simp at h
    next ts₂ hswitch =>
      simp only [Prod.mk.injEq, Except.ok.injEq] at h
      obtain ⟨rfl, rfl⟩ := h
      rw [switchAll_of_succeeded hswitch, saveAll_of_succeeded hsave]

theorem mem_rolesInOrder : role ∈ rolesInOrder modes n ↔
    (role, n) ∈ modes.map fun saved => (saved.role, saved.terminal) := by
  simp only [rolesInOrder, List.mem_map, List.mem_filter, decide_eq_true_eq, Prod.mk.injEq]
  constructor
  · rintro ⟨saved, ⟨hsaved, hn⟩, hrole⟩
    exact ⟨saved, hsaved, hrole, hn⟩
  · rintro ⟨saved, hsaved, hrole, hn⟩
    exact ⟨saved, ⟨hsaved, hn⟩, hrole⟩

theorem nodup_rolesInOrder {streams : Streams} {options : CaptureOptions}
    (h : capture streams options ts = (.ok modes, ts')) (n : Nat) : (rolesInOrder modes n).Nodup := by
  have hroles : (modes.map SavedMode.role).Nodup := (roles_sublist_of_capture h).nodup (by decide)
  exact hroles.sublist (List.filter_sublist.map _)

theorem mem_filterMap_captured? {requests : List (StreamRole × StreamDevice)} :
    (role, n) ∈ requests.filterMap (captured? ts) ↔
      (role, .terminal n) ∈ requests ∧ (ts n).hungUp = false := by
  rw [List.mem_filterMap]
  constructor
  · rintro ⟨⟨asked, device⟩, hrequest, hcaptured⟩
    cases device with
    | pipe => simp [captured?] at hcaptured
    | terminal m =>
      cases hup : (ts m).hungUp with
      | true => simp [captured?, hup] at hcaptured
      | false =>
        simp only [captured?, hup, Bool.false_eq_true, if_false, Option.some.injEq,
          Prod.mk.injEq] at hcaptured
        obtain ⟨rfl, rfl⟩ := hcaptured
        exact ⟨hrequest, hup⟩
  · rintro ⟨hrequest, hup⟩
    exact ⟨(role, .terminal n), hrequest, by simp [captured?, hup]⟩

-- The roles that a terminal serves after a capture.
def rolesOn (modes : SavedModes) (n : Nat) : Finset StreamRole :=
  (rolesInOrder modes n).toFinset

theorem mem_rolesOn : role ∈ rolesOn modes n ↔
    (role, n) ∈ modes.map fun saved => (saved.role, saved.terminal) := by
  rw [rolesOn, List.mem_toFinset, mem_rolesInOrder]

-- A terminal serves the roles whose streams were asked for and lead to it, if it is not hung up, and this
-- set settles the terminal: what its attributes become, and how many calls it has answered. Every switch
-- is still in force at the end, since making it again would change nothing.
theorem terminal_of_captured_roles {streams : Streams} {options : CaptureOptions}
    (h : capture streams options ts = (.ok modes, ts')) (n : Nat) :
    let roles := rolesOn modes n
    (∀ role, role ∈ roles ↔
      (role, .terminal n) ∈ requested streams options ∧ (ts n).hungUp = false) ∧
    ts' n = { ts n with
      attributes := (ts n).attributes.switchedFor roles
      getPlan := (ts n).getPlan.drop (2 * roles.card)
      setPlan := (ts n).setPlan.drop roles.card } ∧
    (roles = ∅ → ts' n = ts n) ∧
    (roles ≠ ∅ → (ts' n).attributes.cflag &&& Attributes.eightBits = Attributes.eightBits ∧
      (ts' n).attributes.cflag &&& Attributes.parity = 0) ∧
    ∀ role ∈ roles, (ts' n).attributes.switched role = (ts' n).attributes := by
  intro roles
  have hcard : roles.card = (rolesInOrder modes n).length :=
    List.toFinset_card_of_nodup (nodup_rolesInOrder h n)
  have hterminal : ts' n = { ts n with
      attributes := (ts n).attributes.switchedFor roles
      getPlan := (ts n).getPlan.drop (2 * roles.card)
      setPlan := (ts n).setPlan.drop roles.card } := by
    rw [capture_of_succeeded h n, hcard, Nat.two_mul, ← List.drop_drop]
    rfl
  refine ⟨?_, hterminal, ?_, ?_, ?_⟩
  · intro role
    obtain ⟨ts₁, hsave⟩ := saveAll_of_capture h
    rw [mem_rolesOn, captured_of_saveAll hsave, mem_filterMap_captured?]
  · intro hempty
    rw [hterminal, hempty, Attributes.switchedFor_empty]
    rfl
  · intro hserved
    rw [hterminal]
    simp only [Attributes.switchedFor, if_neg hserved]
    exact ⟨Attributes.forcedControl_eightBits _, Attributes.forcedControl_parity _⟩
  · intro role hrole
    rw [hterminal, Attributes.switched_eq_switchedFor]
    simp only [Attributes.switchedFor_switchedFor]
    rw [Finset.union_eq_left.mpr (Finset.singleton_subset_iff.mpr hrole)]

-- Terminal 0 serves two of the streams and terminal 1 the third, and every flag word has bits without a
-- name. The switch for input on terminal 0 is still in force after the one for errors.
theorem shared_terminal_of_captured_roles :
    let old : Attributes :=
      { iflag := 0xFFFFFFFF, oflag := 0xFFFFFFFF, cflag := 0xFFFFFFFF, lflag := 0xFFFFFFFF
        vmin := 0, vtime := 7, controls := { interrupt := '\x18' }, discipline := 3 }
    let ts : Terminals := fun _ => { attributes := old }
    let attempt := capture ⟨.terminal 0, .terminal 1, .terminal 0⟩ ⟨false, true, true⟩ ts
    let read := (ts 0).attributes.known
    let modes : SavedModes := [⟨.input, 0, read⟩, ⟨.output, 1, read⟩, ⟨.error, 0, read⟩]
    attempt.1 = .ok modes ∧
      rolesOn modes 0 = {.input, .error} ∧
      (attempt.2 0).attributes =
        { old with
          iflag := 0x78CD, oflag := 0xFFBE, cflag := 0xD00F1EFF, lflag := 0x15FF0, vmin := 1, vtime := 0 } ∧
      (attempt.2 1).attributes =
        { old with iflag := 0x7DFF, oflag := 0xFFBE, cflag := 0xD00F1EFF, lflag := 0x1DFFB } ∧
      (attempt.2 0).attributes.switched .input = (attempt.2 0).attributes := by
  intro old ts attempt read modes
  have hmodes : attempt.1 = .ok modes := by rfl
  have hcapture : attempt = (.ok modes, attempt.2) := Prod.ext hmodes rfl
  obtain ⟨-, hfirst, -, -, hkept⟩ := terminal_of_captured_roles hcapture 0
  obtain ⟨-, hsecond, -⟩ := terminal_of_captured_roles hcapture 1
  refine ⟨hmodes, by decide, ?_, ?_, hkept .input (by decide)⟩
  · rw [hfirst]
    decide
  · rw [hsecond]
    decide

end SavedModes

end TermBridge
