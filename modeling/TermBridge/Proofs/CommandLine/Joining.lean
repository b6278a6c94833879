import Mathlib.Data.List.TakeWhile
import TermBridge.Proofs.CommandLine.Quoting

namespace TermBridge.CommandLine

namespace Scanner

variable {s : Scanner} {blanks : List Char} {done : List (List Char)}

-- Blanks outside quotes end an argument that is open, and then they do nothing.

theorem foldl_step_between (hb : ∀ c ∈ blanks, isBlank c = true) :
    blanks.foldl step (between done) = between done := by
  induction blanks with
  | nil => rfl
  | cons c rest ih =>
    have hrest := ih fun d hd => hb d (List.mem_cons_of_mem c hd)
    rw [List.foldl_cons, step_between (hb c List.mem_cons_self), hrest]

theorem foldl_blanks_outside (hs : s.Settled) (hm : s.mode ≠ .quoted) (hne : blanks ≠ [])
    (hb : ∀ c ∈ blanks, isBlank c = true) : blanks.foldl step s = between s.finish.reverse := by
  obtain ⟨c, rest, rfl⟩ := List.exists_cons_of_ne_nil hne
  have hc : isBlank c = true := hb c List.mem_cons_self
  have hstep : s.step c = between s.finish.reverse := by
    rcases step_separator hc hm with ⟨hbetween, hstep⟩ | ⟨hopen, hstep⟩
    · rw [hstep, hs hbetween]
      simp [between, finish]
    · rw [hstep, finish_of_ne_between hopen]
      simp
  rw [List.foldl_cons, hstep]
  exact foldl_step_between fun d hd => hb d (List.mem_cons_of_mem c hd)

-- Inside quotes they are read as the argument's own.
theorem foldl_blanks_inside (hm : s.mode = .quoted) (hne : blanks ≠ [])
    (hb : ∀ c ∈ blanks, isBlank c = true) :
    blanks.foldl step s = inside true (s.push s.pending blanks.reverse) s.done := by
  induction blanks generalizing s with
  | nil => exact False.elim (hne rfl)
  | cons c rest ih =>
    have hc : isBlank c = true := hb c List.mem_cons_self
    obtain ⟨hslash, hquote⟩ := ne_of_isBlank hc
    have hmode : Mode.entered s.mode = .quoted := by rw [hm]; rfl
    rw [List.foldl_cons, step_plain hslash hquote (.inr hm), hmode]
    cases rest with
    | nil => rfl
    | cons d rest =>
      rw [ih rfl (List.cons_ne_nil d rest) fun e he => hb e (List.mem_cons_of_mem c he)]
      simp [push, backslashes]

end Scanner

open Scanner in
theorem splitChars_append_blanks_iff {blanks : List Char} (hne : blanks ≠ [])
    (hb : ∀ c ∈ blanks, isBlank c = true) (front back : List Char) :
    splitChars (front ++ blanks ++ back) = splitChars front ++ splitChars back ↔
      endsQuoted false front = false := by
  rw [← endsOutsideQuotes_iff, splitChars_eq_scan (front ++ blanks ++ back), splitChars_eq_scan front,
    scan_append, scan_append]
  constructor
  · intro hsplit hm
    -- the last argument of `front` goes on with the blanks
    rw [foldl_blanks_inside hm hne hb, finish_inside, finish_between] at hsplit
    rw [finish_of_ne_between (by simp [hm]), List.reverse_cons, List.append_assoc, List.append_assoc,
      List.append_cancel_left_eq] at hsplit
    have hword := (List.cons.inj hsplit).1
    have hl := congrArg List.length hword
    have hpos := List.length_pos_iff.mpr hne
    simp only [push, List.length_append, List.length_reverse, List.length_nil] at hl
    omega
  · intro hm
    rw [foldl_blanks_outside (settled_scan front) hm hne hb, finish_between, List.reverse_reverse]

theorem splitChars_eq_nil_iff (text : List Char) :
    splitChars text = [] ↔ ∀ c ∈ text, isBlank c = true := by
  rw [← List.dropWhile_eq_nil_iff]
  constructor
  · intro h
    cases hd : text.dropWhile isBlank with
    | nil => rfl
    | cons c rest =>
      rw [splitChars_of_dropWhile_cons hd] at h
      exact False.elim (List.cons_ne_nil _ _ h)
  · exact splitChars_of_dropWhile_nil

-- The joined text is split part by part exactly when the first part ends outside quotes, also where it
-- ends in backslashes, in a quote that closes or in blanks. Only blanks give no arguments at all.
theorem split_append_iff (front : String) :
    (∀ blanks back : String, blanks ≠ "" → (∀ c ∈ blanks.toList, isBlank c = true) →
      (split (front ++ blanks ++ back) = split front ++ split back ↔
        endsQuoted false front.toList = false)) ∧
    (split front = [] ↔ ∀ c ∈ front.toList, isBlank c = true) := by
  constructor
  · intro blanks back hne hb
    have hchars : blanks.toList ≠ [] := by simpa using hne
    rw [split_eq_iff, List.map_append, map_toList_split, map_toList_split, String.toList_append,
      String.toList_append]
    exact splitChars_append_blanks_iff hchars hb front.toList back.toList
  · rw [split_eq_iff]
    exact splitChars_eq_nil_iff front.toList

-- The quote that closes at the end of the first part is not taken together with the one behind the blanks.
theorem split_append_iff_of_closed_quote :
    "\t " ≠ "" ∧ (∀ c ∈ "\t ".toList, isBlank c = true) ∧
      endsQuoted false "say\\ \"a b\"".toList = false ∧
      split ("say\\ \"a b\"" ++ "\t " ++ "\"c\" d\\") =
        split "say\\ \"a b\"" ++ split "\"c\" d\\" := by
  have hne : "\t " ≠ "" := by decide
  have hb : ∀ c ∈ "\t ".toList, isBlank c = true := List.all_eq_true.mp (by decide)
  have hclosed : endsQuoted false "say\\ \"a b\"".toList = false := by decide +kernel
  exact ⟨hne, hb, hclosed, ((split_append_iff _).1 _ _ hne hb).mpr hclosed⟩

end TermBridge.CommandLine
