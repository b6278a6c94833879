import Mathlib.Algebra.Ring.Nat
import Mathlib.Data.List.TakeWhile
import TermBridge.Text.Numeral

namespace TermBridge.Numeral

variable {base n d width : Nat} {c : Char} {text : List Char}

theorem digit?_eq_filter (hbase : base ≤ 16) (c : Char) : digit? base c = (digit? 16 c).filter (· < base) := by
  have hsmall : ∀ v : Nat, (decide (v < 16) && decide (v < base)) = decide (v < base) := by
    intro v
    rw [← Bool.decide_and, decide_eq_decide]
    omega
  simp only [digit?, Option.filter_filter, hsmall]

theorem digit?_digitChar (hbase : base ≤ 16) (hd : d < base) : digit? base (Nat.digitChar d) = some d := by
  have hall : ∀ d < 16, digit? 16 (Nat.digitChar d) = some d := by decide
  rw [digit?_eq_filter hbase, hall d (by omega)]
  simp [hd]

theorem isDigit_of_digit? (h : digit? base c = some d) : isDigit base c = true := by
  simp [isDigit, h]

-- Every digit of any base is an ASCII character behind the blank.
theorem toNat_of_isDigit (h : isDigit base c = true) : 32 < c.toNat ∧ c.toNat < 128 := by
  have hcases : c.isDigit = true ∨ ('a' ≤ c ∧ c ≤ 'f') ∨ ('A' ≤ c ∧ c ≤ 'F') := by
    by_contra hnone
    simp only [not_or] at hnone
    simp [isDigit, digit?, hnone] at h
  have hle : ∀ a b : Char, a ≤ b ↔ a.toNat ≤ b.toNat := fun a b => Iff.rfl
  have hends : '0'.toNat = 48 ∧ '9'.toNat = 57 ∧ 'a'.toNat = 97 ∧ 'f'.toNat = 102 ∧ 'A'.toNat = 65 ∧
    'F'.toNat = 70 := by decide
  rw [Char.isDigit_iff_toNat, hle, hle, hle, hle] at hcases
  omega

theorem digits_eq_iff {ds : List Nat} :
    digits base text = (ds, []) ↔
      (∀ c ∈ text, isDigit base c = true) ∧ text.filterMap (digit? base) = ds := by
  rw [digits, Prod.mk.injEq, List.dropWhile_eq_nil_iff, and_comm]
  refine and_congr_right fun hall => ?_
  rw [List.takeWhile_eq_self_iff.mpr hall]

theorem value?_eq_some_iff :
    value? base text = some n ↔ ∃ d ds, digits base text = (d :: ds, []) ∧ ofDigits base (d :: ds) = n := by
  rw [value?]
  split
  next d ds hdigits =>
    constructor
    · intro hn
      exact ⟨d, ds, hdigits, Option.some.inj hn⟩
    · rintro ⟨d', ds', hdigits', rfl⟩
      obtain ⟨hcons, -⟩ := Prod.mk.inj (hdigits.symm.trans hdigits')
      rw [hcons]
  next hnone =>
    simp only [reduceCtorEq, false_iff]
    rintro ⟨d, ds, hdigits, -⟩
    exact hnone d ds hdigits

theorem isDigit_of_value? (h : value? base text = some n) : ∀ c ∈ text, isDigit base c = true := by
  obtain ⟨d, ds, hdigits, -⟩ := value?_eq_some_iff.mp h
  exact (digits_eq_iff.mp hdigits).1

-- A number has at least one digit, and it can stand behind blanks without being taken for one of them.
theorem dropWhile_blank (h : value? base text = some n) (blanks : Nat) :
    (List.replicate blanks ' ' ++ text).dropWhile (· = ' ') = text := by
  rw [List.dropWhile_append_of_pos (by simp)]
  cases text with
  | nil => rfl
  | cons c rest =>
    have hc : 32 < c.toNat := (toNat_of_isDigit (isDigit_of_value? h c List.mem_cons_self)).1
    have hne : c ≠ ' ' := by
      rintro rfl
      exact absurd hc (by decide)
    rw [List.dropWhile_cons_of_neg (by simpa using hne)]

theorem value?_singleton (h : digit? base c = some d) : value? base [c] = some d := by
  have hdigits : digits base [c] = ([d], []) :=
    digits_eq_iff.mpr ⟨by simp [isDigit_of_digit? h], by simp [h]⟩
  exact value?_eq_some_iff.mpr ⟨d, [], hdigits, by simp [ofDigits]⟩

theorem value?_append_digit (h : value? base text = some n) (hc : digit? base c = some d) :
    value? base (text ++ [c]) = some (n * base + d) := by
  obtain ⟨first, rest, hdigits, hn⟩ := value?_eq_some_iff.mp h
  obtain ⟨hall, hmap⟩ := digits_eq_iff.mp hdigits
  have hdigits' : digits base (text ++ [c]) = (first :: (rest ++ [d]), []) := by
    refine digits_eq_iff.mpr ⟨?_, by simp [hmap, hc]⟩
    intro x hx
    rcases List.mem_append.mp hx with hx | hx
    · exact hall x hx
    · rw [List.mem_singleton.mp hx, isDigit_of_digit? hc]
  refine value?_eq_some_iff.mpr ⟨first, rest ++ [d], hdigits', ?_⟩
  rw [← hn, ← List.cons_append, ofDigits, List.foldl_append]
  rfl

-- By the last digit, as it is written.
theorem value?_toDigits (hone : 1 < base) (hbase : base ≤ 16) (n : Nat) :
    value? base (Nat.toDigits base n) = some n := by
  induction n using Nat.strong_induction_on with
  | _ n ih =>
    cases Nat.lt_or_ge n base with
    | inl hlt =>
      rw [Nat.toDigits_of_lt_base hlt]
      exact value?_singleton (digit?_digitChar hbase hlt)
    | inr hge =>
      have hfront : value? base (Nat.toDigits base (n / base)) = some (n / base) :=
        ih (n / base) (Nat.div_lt_self (by omega) hone)
      have hlast : digit? base (Nat.digitChar (n % base)) = some (n % base) :=
        digit?_digitChar hbase (Nat.mod_lt n (by omega))
      rw [Nat.toDigits_of_base_le hone hge, value?_append_digit hfront hlast, Nat.mul_comm,
        Nat.div_add_mod]

theorem value?_zero_cons (hone : 1 < base) (hbase : base ≤ 16) (h : value? base text = some n) :
    value? base ('0' :: text) = some n := by
  have hzero : digit? base '0' = some 0 := digit?_digitChar (d := 0) hbase (by omega)
  obtain ⟨first, rest, hdigits, hn⟩ := value?_eq_some_iff.mp h
  obtain ⟨hall, hmap⟩ := digits_eq_iff.mp hdigits
  have hdigits' : digits base ('0' :: text) = (0 :: first :: rest, []) := by
    refine digits_eq_iff.mpr ⟨?_, by simp [hmap, hzero]⟩
    intro x hx
    rcases List.mem_cons.mp hx with hx | hx
    · rw [hx, isDigit_of_digit? hzero]
    · exact hall x hx
  refine value?_eq_some_iff.mpr ⟨0, first :: rest, hdigits', ?_⟩
  rw [← hn, ofDigits, List.foldl_cons, Nat.zero_mul, Nat.zero_add, ofDigits]

theorem value?_padLeft_zero (hone : 1 < base) (hbase : base ≤ 16) (h : value? base text = some n) :
    value? base (padLeft width '0' text) = some n := by
  rw [padLeft]
  induction width - text.length with
  | zero => exact h
  | succ zeros ih =>
    rw [List.replicate_succ, List.cons_append]
    exact value?_zero_cons hone hbase ih

theorem length_padLeft (h : text.length ≤ width) (fill : Char) : (padLeft width fill text).length = width := by
  rw [padLeft, List.length_append, List.length_replicate]
  omega

theorem length_padLeft_toDigits (hone : 1 < base) (hwidth : 0 < width) (hn : n < base ^ width) (fill : Char) :
    (padLeft width fill (Nat.toDigits base n)).length = width :=
  length_padLeft ((Nat.length_toDigits_le_iff hone hwidth).mpr hn) fill

end TermBridge.Numeral
