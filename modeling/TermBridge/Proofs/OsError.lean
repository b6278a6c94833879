import Mathlib.Data.List.Basic
import TermBridge.Errno
import TermBridge.Proofs.Text.Numeral

namespace TermBridge.OsError

open Numeral (isDigit)

variable {mark text kept : List Char}

-- Cutting the printed form

theorem prefix_of_beforeLast (h : beforeLast mark text = some kept) : kept ++ mark <+: text := by
  induction text generalizing kept with
  | nil =>
    simp only [beforeLast, Option.ite_none_right_eq_some, Option.some.injEq, List.isEmpty_iff] at h
    obtain ⟨rfl, rfl⟩ := h
    exact List.prefix_refl []
  | cons c rest ih =>
    rw [beforeLast] at h
    split at h
    next front hfront =>
      obtain rfl : c :: front = kept := Option.some.inj h
      exact List.cons_prefix_cons.mpr ⟨rfl, ih hfront⟩
    next hnone =>
      simp only [Option.ite_none_right_eq_some, Option.some.injEq, List.isPrefixOf_iff_prefix] at h
      obtain ⟨hmark, rfl⟩ := h
      exact hmark

-- The last place is found where the mark does not begin once more behind its first character.
theorem beforeLast_append {c : Char} {more tail : List Char} (h : beforeLast (c :: more) (more ++ tail) = none)
    (front : List Char) : beforeLast (c :: more) (front ++ (c :: more ++ tail)) = some front := by
  induction front with
  | nil =>
    have hmark : (c :: more).isPrefixOf (c :: (more ++ tail)) = true :=
      List.isPrefixOf_iff_prefix.mpr (List.prefix_append (c :: more) tail)
    rw [List.nil_append, List.cons_append, beforeLast, h]
    simp only [hmark, if_true]
  | cons d front ih => rw [List.cons_append, beforeLast, ih]

theorem mem_repr {n : Int} {c : Char} (h : c ∈ n.repr.toList) : c = '-' ∨ isDigit 10 c = true := by
  have hdigits : ∀ (m : Nat) (d : Char), d ∈ m.repr.toList → isDigit 10 d = true := by
    intro m d hd
    have hvalue : Numeral.value? 10 (Nat.toDigits 10 m) = some m :=
      Numeral.value?_toDigits (by omega) (by omega) m
    apply Numeral.isDigit_of_value? hvalue
    simpa [Nat.repr] using hd
  cases n with
  | ofNat m => exact .inr (hdigits m c h)
  | negSucc m =>
    have hmem : c ∈ "-".toList ++ m.succ.repr.toList := by
      rw [← String.toList_append]
      exact h
    rcases List.mem_append.mp hmem with hminus | hdigit
    · exact .inl (by simpa using hminus)
    · exact .inr (hdigits m.succ c hdigit)

-- A message may hold the mark itself, but the number behind the last one cannot.
theorem beforeLast_display (messages : Errno → String) (e : Errno) :
    beforeLast " (os error ".toList (display messages e) = some (messages e).toList := by
  have hbehind : '(' ∉ "os error ".toList ++ (e.code.toInt.repr.toList ++ [')']) := by
    intro hmem
    simp only [List.mem_append] at hmem
    rcases hmem with hmem | hmem | hmem
    · exact absurd hmem (by decide)
    · rcases mem_repr hmem with h | h
      · exact absurd h (by decide)
      · exact absurd h (by decide)
    · exact absurd hmem (by decide)
  have hnone : beforeLast (' ' :: "(os error ".toList)
      ("(os error ".toList ++ (e.code.toInt.repr.toList ++ [')'])) = none := by
    by_contra hfound
    obtain ⟨kept, hkept⟩ := Option.ne_none_iff_exists'.mp hfound
    have hprefix := prefix_of_beforeLast hkept
    cases kept with
    | nil =>
      have hspace : ' ' = '(' := (List.cons_prefix_cons.mp hprefix).1
      exact absurd hspace (by decide)
    | cons d kept =>
      have hrest := (List.cons_prefix_cons.mp hprefix).2
      apply hbehind
      apply hrest.subset
      simp
  exact beforeLast_append hnone (messages e).toList

theorem messageAlone_eq (messages : Errno → String) (e : Errno) :
    messageAlone messages e =
      if "Unknown error".toList <+: trimRight (messages e).toList then []
      else trimRight (messages e).toList := by
  simp only [messageAlone, beforeLast_display, Option.getD_some, List.isPrefixOf_iff_prefix]

-- Reading the number

-- One parenthesis that closes the text is not part of the number.
def unclosed (text : List Char) : List Char :=
  if text.getLast? = some ')' then text.dropLast else text

-- The hexadecimal number that a text ends in.
def endingNumber? (text : List Char) : Option Nat :=
  Numeral.value? 16 ((unclosed text).reverse.takeWhile (isDigit 16)).reverse

theorem endingNumber?_of_unclosed {front digits : List Char} {c : Char} {n : Nat}
    (h : unclosed text = front ++ c :: digits) (hc : isDigit 16 c = false)
    (hn : Numeral.value? 16 digits = some n) : endingNumber? text = some n := by
  have hall : ∀ d ∈ digits.reverse, isDigit 16 d = true := by
    intro d hd
    exact Numeral.isDigit_of_value? hn d (List.mem_reverse.mp hd)
  have hstop : (c :: front.reverse).takeWhile (isDigit 16) = [] :=
    List.takeWhile_cons_of_neg (by simp [hc])
  have hreverse : (front ++ c :: digits).reverse = digits.reverse ++ c :: front.reverse := by simp
  rw [endingNumber?, h, hreverse, List.takeWhile_append_of_pos hall, hstop, List.append_nil,
    List.reverse_reverse, hn]

theorem value?_hex (n : Nat) : Numeral.value? 16 (Numeral.hex n) = some n :=
  Numeral.value?_toDigits (by omega) (Nat.le_refl 16) n

theorem hexCode_eq (e : Errno) :
    hexCode e = "error 0".toList ++ 'x' :: Numeral.hex e.code.toUInt32.toNat :=
  rfl

theorem unclosed_hexCode (e : Errno) : unclosed (hexCode e) = hexCode e := by
  have hdigits : ∀ c ∈ Numeral.hex e.code.toUInt32.toNat, c ≠ ')' := by
    rintro c hc rfl
    have hdigit := Numeral.isDigit_of_value? (value?_hex _) ')' hc
    exact absurd hdigit (by decide)
  have hlast : (hexCode e).getLast? ≠ some ')' := by
    intro hclosed
    rw [hexCode_eq, List.getLast?_append_cons] at hclosed
    rcases List.mem_cons.mp (List.mem_of_getLast? hclosed) with hx | hmem
    · exact absurd hx (by decide)
    · exact hdigits ')' hmem rfl
  rw [unclosed, if_neg hlast]

theorem unclosed_closed (text : List Char) : unclosed (text ++ [')']) = text := by
  simp [unclosed]

theorem describeWith_eq (messages : Errno → String) (e : Errno) :
    describeWith messages e =
      if trimRight (messages e).toList = [] ∨ "Unknown error".toList <+: trimRight (messages e).toList
      then hexCode e
      else trimRight (messages e).toList ++ (" (".toList ++ (hexCode e ++ [')'])) := by
  rw [describeWith, messageAlone_eq]
  by_cases hunknown : "Unknown error".toList <+: trimRight (messages e).toList
  · simp only [hunknown, if_true, or_true]
  · simp only [hunknown, if_false, or_false]
    cases trimRight (messages e).toList <;> simp

theorem endingNumber?_describeWith (messages : Errno → String) (e : Errno) :
    endingNumber? (describeWith messages e) = some e.code.toUInt32.toNat := by
  have hx : isDigit 16 'x' = false := by decide
  rw [describeWith_eq]
  split
  next hnone =>
    have hshape : unclosed (hexCode e) =
        "error 0".toList ++ 'x' :: Numeral.hex e.code.toUInt32.toNat := by
      rw [unclosed_hexCode, hexCode_eq]
    exact endingNumber?_of_unclosed hshape hx (value?_hex _)
  next hmessage =>
    have hshape : unclosed (trimRight (messages e).toList ++ (" (".toList ++ (hexCode e ++ [')']))) =
        (trimRight (messages e).toList ++ (" (".toList ++ "error 0".toList)) ++
          'x' :: Numeral.hex e.code.toUInt32.toNat := by
      rw [← List.append_assoc " (".toList, ← List.append_assoc, unclosed_closed, hexCode_eq,
        List.append_assoc, List.append_assoc]
    exact endingNumber?_of_unclosed hshape hx (value?_hex _)

theorem code_inj {e other : Errno} (h : e.code.toUInt32.toNat = other.code.toUInt32.toNat) : e = other := by
  have hword : e.code.toUInt32 = other.code.toUInt32 := UInt32.toNat_inj.mp h
  have hcode : e.code = other.code := congrArg Int32.ofUInt32 hword
  exact congrArg Errno.mk hcode

-- The text is the message without its trailing blanks and the code behind it, or the code alone where the
-- message is empty or says that the number is unknown. The code can be read back from its end.
theorem describeWith_ends_in_code (messages : Errno → String) (e other : Errno) :
    (describeWith messages e = describeWith messages other ↔ e = other) ∧
    endingNumber? (describeWith messages e) = some e.code.toUInt32.toNat ∧
    describeWith messages e =
      if trimRight (messages e).toList = [] ∨ "Unknown error".toList <+: trimRight (messages e).toList
      then hexCode e
      else trimRight (messages e).toList ++ (" (".toList ++ (hexCode e ++ [')'])) := by
  refine ⟨?_, endingNumber?_describeWith messages e, describeWith_eq messages e⟩
  constructor
  · intro hsame
    have hnumber : some e.code.toUInt32.toNat = some other.code.toUInt32.toNat := by
      rw [← endingNumber?_describeWith messages e, hsame, endingNumber?_describeWith]
    exact code_inj (Option.some.inj hnumber)
  · rintro rfl
    rfl

-- A message that looks like the text of another number, and a negative one.
example : describeWith (fun _ => "gone (error 0x1) (os error 7) ") ⟨-1⟩ =
    "gone (error 0x1) (os error 7) (error 0xffffffff)".toList := by
  decide +kernel

end TermBridge.OsError
