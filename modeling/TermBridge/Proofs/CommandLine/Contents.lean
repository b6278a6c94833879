import TermBridge.Proofs.CommandLine.Accounting
import TermBridge.Proofs.CommandLine.Quoting

namespace TermBridge.CommandLine

theorem backslashes_half_sublist (n : Nat) : (backslashes (n / 2)).Sublist (backslashes n) :=
  (List.replicate_sublist_replicate '\\').mpr (Nat.div_le_self n 2)

theorem word_append_rest_sublist (inQuotes : Bool) (text : List Char) :
    ((word inQuotes text).1 ++ (word inQuotes text).2).Sublist text := by
  fun_induction word inQuotes text with
  | case1 inQuotes text n h => simp [eq_append_of_run h]
  | case2 inQuotes text n rest hn after h ih =>
    rw [eq_append_of_run h, List.append_assoc]
    exact (backslashes_half_sublist n).append (ih.cons_cons '"')
  | case3 inQuotes text n rest hn hd after h ih =>
    simp only [Bool.and_eq_true, beq_iff_eq, List.head?_eq_some_iff] at hd
    obtain ⟨-, tail, rfl⟩ := hd
    rw [eq_append_of_run h, List.append_assoc]
    exact (backslashes_half_sublist n).append ((ih.cons_cons '"').cons '"')
  | case4 inQuotes text n rest hn hd after h ih =>
    rw [eq_append_of_run h, List.append_assoc]
    exact (backslashes_half_sublist n).append (ih.cons '"')
  | case5 inQuotes text n c rest h hc hb => simp [eq_append_of_run h]
  | case6 inQuotes text n c rest h hc hb after ih =>
    rw [eq_append_of_run h, List.append_assoc]
    exact (List.Sublist.refl _).append (ih.cons_cons c)

theorem flatten_splitChars_sublist (text : List Char) : (splitChars text).flatten.Sublist text := by
  fun_induction splitChars text with
  | case1 text h => exact List.nil_sublist text
  | case2 text c rest h first ih =>
    rw [List.flatten_cons]
    calc
      (first.1 ++ (splitChars first.2).flatten).Sublist (first.1 ++ first.2) :=
        (List.Sublist.refl first.1).append ih
      List.Sublist _ (c :: rest) := word_append_rest_sublist false (c :: rest)
      List.Sublist _ text := h ▸ List.dropWhile_sublist isBlank

theorem withoutMarks_append (chars more : List Char) :
    withoutMarks (chars ++ more) = withoutMarks chars ++ withoutMarks more :=
  List.filter_append chars more

theorem withoutMarks_backslashes (n : Nat) : withoutMarks (backslashes n) = [] :=
  filter_backslashes (by decide) n

namespace Scanner

variable {s : Scanner} {c : Char}

-- All that has been read so far, but for the backslashes that are held back.
def written (s : Scanner) : List Char :=
  s.done.reverse.flatten ++ s.current.reverse

-- What is pushed comes last, and the backslashes in front of it do not count.
theorem withoutMarks_push (s : Scanner) (mode : Mode) (n : Nat) (chars : List Char) :
    withoutMarks (written { s with mode := mode, pending := 0, current := s.push n chars }) =
      withoutMarks s.written ++ withoutMarks chars.reverse := by
  simp only [written, reverse_push, withoutMarks_append, withoutMarks_backslashes, List.nil_append,
    List.append_assoc]

theorem withoutMarks_step_mark (s : Scanner) (hc : isMark c = true) :
    withoutMarks (s.step c).written = withoutMarks s.written := by
  have hcases : c = '"' ∨ c = '\\' := by simpa [isMark] using hc
  rcases hcases with rfl | rfl
  · by_cases hodd : s.pending % 2 = 1
    · have hn : s.pending = 2 * (s.pending / 2) + 1 := by omega
      rw [step_escaped_quote hn, withoutMarks_push]
      simp [withoutMarks, isMark]
    · have hn : s.pending = 2 * (s.pending / 2) := by omega
      by_cases hm : s.mode = .justClosed
      · have hstep : s.step '"' = { s with mode := .quoted, pending := 0, current := s.push 0 ['"'] } := by
          simp [step, hodd, hm]
        rw [hstep, withoutMarks_push]
        simp [withoutMarks, isMark]
      · rw [step_quote hn hm, withoutMarks_push]
        simp [withoutMarks]
  · rfl

theorem withoutMarks_step_separator (hb : isBlank c = true) (hm : s.mode ≠ .quoted) :
    withoutMarks (s.step c).written = withoutMarks s.written := by
  rcases step_separator hb hm with ⟨-, hstep⟩ | ⟨-, hstep⟩
  · rw [hstep]
  · rw [hstep]
    simp [written, between, reverse_push, withoutMarks_append, withoutMarks_backslashes]

theorem withoutMarks_step_kept (hc : isMark c = false) (hb : isBlank c = false ∨ s.mode = .quoted) :
    withoutMarks (s.step c).written = withoutMarks s.written ++ [c] := by
  obtain ⟨hquote, hslash⟩ : c ≠ '"' ∧ c ≠ '\\' := by simpa [isMark] using hc
  rw [step_plain hslash hquote hb, withoutMarks_push]
  simp [withoutMarks, hc]

theorem withoutMarks_foldl (before text : List Char) :
    withoutMarks (text.foldl step (scan before)).written =
      withoutMarks (scan before).written ++ contents before text := by
  induction text generalizing before with
  | nil => simp [contents]
  | cons c rest ih =>
    have hscan : (scan before).step c = scan (before ++ [c]) := by rw [scan_append]; rfl
    have hquoted := mode_scan_iff before
    rw [List.foldl_cons, hscan, ih (before ++ [c]), ← hscan, contents]
    split
    next hdropped =>
      have hstep : withoutMarks ((scan before).step c).written = withoutMarks (scan before).written := by
        by_cases hmark : isMark c = true
        · exact withoutMarks_step_mark _ hmark
        · simp only [hmark, Bool.false_or, Bool.and_eq_true, Bool.not_eq_true'] at hdropped
          exact withoutMarks_step_separator hdropped.1 (by simp [hquoted, hdropped.2])
      rw [hstep]
    next hkept =>
      simp only [Bool.or_eq_true, Bool.and_eq_true, Bool.not_eq_true', not_or, not_and,
        Bool.not_eq_true, Bool.not_eq_false] at hkept
      have hblank : isBlank c = false ∨ (scan before).mode = .quoted := by
        cases hb : isBlank c with
        | false => exact .inl rfl
        | true => exact .inr (hquoted.mpr (hkept.2 hb))
      rw [withoutMarks_step_kept hkept.1 hblank, List.append_assoc, List.singleton_append]

theorem withoutMarks_finish (hs : s.Settled) : withoutMarks s.finish.flatten = withoutMarks s.written := by
  by_cases hm : s.mode = .between
  · rw [hs hm]
    simp [finish, between, written]
  · rw [finish_of_ne_between hm]
    simp [written, reverse_push, withoutMarks_append, withoutMarks_backslashes]

end Scanner

open Scanner in
theorem withoutMarks_flatten_splitChars (text : List Char) :
    withoutMarks (splitChars text).flatten = contents [] text := by
  have hfoldl := withoutMarks_foldl [] text
  rw [splitChars_eq_scan, withoutMarks_finish (settled_scan text)]
  simpa [scan, start, written, withoutMarks] using hfoldl

theorem toList_join_split (text : String) :
    (String.join (split text)).toList = (splitChars text.toList).flatten := by
  rw [String.toList_join, List.flatMap_def, map_toList_split]

-- Plain characters stay in their order, no character comes more often than before, and of the blanks
-- exactly those inside quotes stay, at their places among the plain characters.
theorem split_keeps_contents (text : String) :
    (String.join (split text)).toList.filter isPlain = text.toList.filter isPlain ∧
    (∀ c, (String.join (split text)).toList.count c ≤ text.toList.count c) ∧
    withoutMarks (String.join (split text)).toList = contents [] text.toList := by
  rw [toList_join_split]
  refine ⟨?_, ?_, ?_⟩
  · have hblank : ∀ c, isBlank c = true → isPlain c = false := by
      intro c hb
      simp [isPlain, hb]
    exact filter_flatten_splitChars (by decide) (by decide) hblank text.toList
  · intro c
    exact (flatten_splitChars_sublist text.toList).count_le c
  · exact withoutMarks_flatten_splitChars text.toList

end TermBridge.CommandLine
