import TermBridge.Proofs.CommandLine.Word

namespace TermBridge.CommandLine

theorem length_of_run {text rest : List Char} {n : Nat} (h : run text = (n, rest)) :
    n + rest.length = text.length := by
  have hl := run_length text
  rwa [h] at hl

theorem word_rest_suffix (inQuotes : Bool) (text : List Char) :
    (word inQuotes text).2 <:+ text := by
  fun_induction word inQuotes text with
  | case1 inQuotes text n h => exact List.nil_suffix
  | case2 inQuotes text n rest hn after h ih =>
    rw [eq_append_of_run h]
    exact (ih.trans (List.suffix_cons _ _)).trans (List.suffix_append _ _)
  | case3 inQuotes text n rest hn hd after h ih =>
    rw [eq_append_of_run h]
    exact ((ih.trans (List.tail_suffix rest)).trans (List.suffix_cons _ _)).trans
      (List.suffix_append _ _)
  | case4 inQuotes text n rest hn hd after h ih =>
    rw [eq_append_of_run h]
    exact (ih.trans (List.suffix_cons _ _)).trans (List.suffix_append _ _)
  | case5 inQuotes text n c rest h hc hb =>
    rw [eq_append_of_run h]
    exact List.suffix_append _ _
  | case6 inQuotes text n c rest h hc hb after ih =>
    rw [eq_append_of_run h]
    exact (ih.trans (List.suffix_cons _ _)).trans (List.suffix_append _ _)

theorem atBoundary_word_rest (inQuotes : Bool) (text : List Char) :
    AtBoundary (word inQuotes text).2 := by
  fun_induction word inQuotes text with
  | case1 inQuotes text n h => exact atBoundary_nil
  | case2 inQuotes text n rest hn after h ih => exact ih
  | case3 inQuotes text n rest hn hd after h ih => exact ih
  | case4 inQuotes text n rest hn hd after h ih => exact ih
  | case5 inQuotes text n c rest h hc hb =>
    intro d hd
    simp only [List.head?_cons, Option.mem_some_iff] at hd
    simp only [Bool.and_eq_true] at hb
    exact hd ▸ hb.1
  | case6 inQuotes text n c rest h hc hb after ih => exact ih

theorem count_quote_backslashes (n : Nat) : (backslashes n).count '"' = 0 := by
  simp [backslashes, List.count_replicate]

-- With text left over the argument has ended outside quotes. A text may end inside them, which is why
-- the bound fails without the hypothesis.
theorem length_word_add_count_le {inQuotes : Bool} {text : List Char}
    (hr : (word inQuotes text).2 ≠ []) :
    (word inQuotes text).1.length + (word inQuotes text).1.count '"' + inQuotes.toNat +
      (word inQuotes text).2.length ≤ text.length := by
  fun_induction word inQuotes text with
  | case1 inQuotes text n h => exact False.elim (hr rfl)
  | case2 inQuotes text n rest hn after h ih =>
    have hl := length_of_run h
    have hi := ih hr
    simp only [List.length_append, List.count_append, count_quote_backslashes, length_backslashes,
      List.length_cons, List.count_cons_self, after] at hl hi ⊢
    omega
  | case3 inQuotes text n rest hn hd after h ih =>
    have hl := length_of_run h
    have hi := ih hr
    simp only [Bool.and_eq_true, beq_iff_eq] at hd
    have ht : rest.length = rest.tail.length + 1 := by
      rw [List.head?_eq_some_iff] at hd
      obtain ⟨-, tail, rfl⟩ := hd
      rfl
    simp only [hd.1, List.length_append, List.count_append, count_quote_backslashes, length_backslashes,
      List.length_cons, List.count_cons_self, after, Bool.toNat_true] at hl hi ⊢
    omega
  | case4 inQuotes text n rest hn hd after h ih =>
    have hl := length_of_run h
    have hi := ih hr
    simp only [List.length_append, List.count_append, count_quote_backslashes, length_backslashes,
      List.length_cons, after] at hl hi ⊢
    cases inQuotes <;> simp only [Bool.not_true, Bool.not_false, Bool.toNat_true, Bool.toNat_false]
      at hi ⊢ <;> omega
  | case5 inQuotes text n c rest h hc hb =>
    have hl := length_of_run h
    simp only [Bool.and_eq_true, Bool.not_eq_true'] at hb
    rw [count_quote_backslashes, hb.2]
    simp only [length_backslashes, Bool.toNat_false]
    omega
  | case6 inQuotes text n c rest h hc hb after ih =>
    have hl := length_of_run h
    have hi := ih hr
    simp only [List.length_append, List.count_append, count_quote_backslashes, length_backslashes,
      List.length_cons, List.count_cons_of_ne hc, after] at hl hi ⊢
    omega

section Kept

-- A class of characters that are no syntax inside an argument.
variable {p : Char → Bool} (hq : p '"' = false) (hs : p '\\' = false)
include hq hs

omit hq in
theorem filter_backslashes (n : Nat) : (backslashes n).filter p = [] := by
  simp [backslashes, hs]

theorem filter_word (inQuotes : Bool) (text : List Char) :
    (word inQuotes text).1.filter p ++ (word inQuotes text).2.filter p = text.filter p := by
  fun_induction word inQuotes text with
  | case1 inQuotes text n h =>
    rw [eq_append_of_run h]
    simp [filter_backslashes hs]
  | case2 inQuotes text n rest hn after h ih =>
    rw [eq_append_of_run h]
    simpa [filter_backslashes hs, hq] using ih
  | case3 inQuotes text n rest hn hd after h ih =>
    rw [eq_append_of_run h]
    simp only [Bool.and_eq_true, beq_iff_eq, List.head?_eq_some_iff] at hd
    obtain ⟨-, tail, rfl⟩ := hd
    simpa [filter_backslashes hs, hq, after] using ih
  | case4 inQuotes text n rest hn hd after h ih =>
    rw [eq_append_of_run h]
    simpa [filter_backslashes hs, hq] using ih
  | case5 inQuotes text n c rest h hc hb =>
    rw [eq_append_of_run h]
    simp [filter_backslashes hs]
  | case6 inQuotes text n c rest h hc hb after ih =>
    rw [eq_append_of_run h]
    by_cases hp : p c = true
    · simpa [filter_backslashes hs, hp] using ih
    · simpa [filter_backslashes hs, hp] using ih

-- Of characters that are neither syntax nor blanks, splitting keeps all, in their order.
theorem filter_flatten_splitChars (hb : ∀ c, isBlank c = true → p c = false) (text : List Char) :
    (splitChars text).flatten.filter p = text.filter p := by
  have hd : ∀ text : List Char, (text.dropWhile isBlank).filter p = text.filter p := by
    intro text
    induction text with
    | nil => rfl
    | cons c text ih =>
      rw [List.dropWhile_cons]
      split
      · rename_i hc
        rw [ih, List.filter_cons_of_neg (by simp [hb c hc])]
      · rfl
  fun_induction splitChars text with
  | case1 text h =>
    rw [← hd text, h]
    rfl
  | case2 text c rest h first ih =>
    rw [List.flatten_cons, List.filter_append, ih, filter_word hq hs, ← h, hd text]

end Kept

theorem count_flatten_splitChars {c : Char} (hq : c ≠ '"') (hs : c ≠ '\\') (hb : isBlank c = false)
    (text : List Char) : (splitChars text).flatten.count c = text.count c := by
  have hf := filter_flatten_splitChars (p := (· == c)) (by simpa using hq.symm)
    (by simpa using hs.symm) (by rintro d hd; simp only [beq_eq_false_iff_ne]; rintro rfl; simp_all) text
  rw [List.count_eq_length_filter, List.count_eq_length_filter, hf]

end TermBridge.CommandLine
