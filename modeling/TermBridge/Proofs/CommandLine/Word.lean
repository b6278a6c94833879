import TermBridge.CommandLine.Split

namespace TermBridge.CommandLine

theorem backslashes_succ (n : Nat) : backslashes (n + 1) = '\\' :: backslashes n :=
  List.replicate_succ

theorem length_backslashes (n : Nat) : (backslashes n).length = n :=
  List.length_replicate

-- The run may be written in front of a backslash or behind it.
theorem backslashes_append_cons (n : Nat) (text : List Char) :
    backslashes n ++ '\\' :: text = backslashes (n + 1) ++ text := by
  simp only [backslashes, List.replicate_succ', List.append_assoc, List.singleton_append]

theorem mem_backslashes {n : Nat} {c : Char} (h : c ∈ backslashes n) : c = '\\' :=
  List.eq_of_mem_replicate h

theorem ne_of_isBlank {c : Char} (hb : isBlank c = true) : c ≠ '\\' ∧ c ≠ '"' := by
  constructor
  all_goals
    rintro rfl
    simp [isBlank] at hb

-- Runs

theorem run_append_backslashes (n : Nat) (text : List Char) :
    run (backslashes n ++ text) = (n + (run text).1, (run text).2) := by
  induction n with
  | zero => simp [backslashes]
  | succ n ih =>
    simp only [backslashes_succ, List.cons_append, run, if_true]
    rw [ih]
    simp only [Prod.mk.injEq, and_true]
    omega

theorem run_backslashes (n : Nat) : run (backslashes n) = (n, []) := by
  simpa [run] using run_append_backslashes n []

theorem run_of_ne {c : Char} (hc : c ≠ '\\') (n : Nat) (rest : List Char) :
    run (backslashes n ++ c :: rest) = (n, c :: rest) := by
  simp [run_append_backslashes, run, hc]

theorem append_of_run (text : List Char) : backslashes (run text).1 ++ (run text).2 = text := by
  induction text with
  | nil => rfl
  | cons c rest ih =>
    by_cases hc : c = '\\'
    · simp only [run, hc, if_true, backslashes_succ, List.cons_append, ih]
    · simp [run, hc, backslashes]

theorem eq_append_of_run {text rest : List Char} {n : Nat} (h : run text = (n, rest)) :
    text = backslashes n ++ rest := by
  have ha := append_of_run text
  rw [h] at ha
  exact ha.symm

theorem run_head_ne {text rest : List Char} {n : Nat} {c : Char} (h : run text = (n, c :: rest)) :
    c ≠ '\\' := by
  induction text generalizing n with
  | nil => simp [run] at h
  | cons d text ih =>
    rw [run] at h
    split at h
    next hd =>
      cases hr : run text with
      | mk m tail =>
        rw [hr] at h
        cases h
        exact ih hr
    next hd =>
      cases h
      exact hd

-- One argument

theorem word_of_run_nil {text : List Char} {n : Nat} (h : run text = (n, [])) (inQuotes : Bool) :
    word inQuotes text = (backslashes n, []) := by
  rw [word]
  split <;> simp_all

theorem word_of_run_cons {text rest : List Char} {n : Nat} {c : Char}
    (h : run text = (n, c :: rest)) (inQuotes : Bool) :
    word inQuotes text =
      if c = '"' then
        if n % 2 = 1 then
          (backslashes (n / 2) ++ '"' :: (word inQuotes rest).1, (word inQuotes rest).2)
        else if inQuotes && rest.head? == some '"' then
          (backslashes (n / 2) ++ '"' :: (word true rest.tail).1, (word true rest.tail).2)
        else (backslashes (n / 2) ++ (word (!inQuotes) rest).1, (word (!inQuotes) rest).2)
      else if isBlank c && !inQuotes then (backslashes n, c :: rest)
      else (backslashes n ++ c :: (word inQuotes rest).1, (word inQuotes rest).2) := by
  rw [word]
  split
  · simp_all
  · simp_all only [Prod.mk.injEq, List.cons.injEq]

theorem word_backslashes (inQuotes : Bool) (n : Nat) :
    word inQuotes (backslashes n) = (backslashes n, []) :=
  word_of_run_nil (run_backslashes n) inQuotes

theorem word_escaped_quote (inQuotes : Bool) (n : Nat) (rest : List Char) :
    word inQuotes (backslashes (2 * n + 1) ++ '"' :: rest) =
      (backslashes n ++ '"' :: (word inQuotes rest).1, (word inQuotes rest).2) := by
  have hn : (2 * n + 1) / 2 = n := by omega
  rw [word_of_run_cons (run_of_ne (by decide) _ rest)]
  simp [hn]

theorem word_opening_quote (n : Nat) (rest : List Char) :
    word false (backslashes (2 * n) ++ '"' :: rest) =
      (backslashes n ++ (word true rest).1, (word true rest).2) := by
  rw [word_of_run_cons (run_of_ne (by decide) _ rest)]
  simp

theorem word_quote (text : List Char) : word false ('"' :: text) = word true text :=
  word_opening_quote 0 text

theorem word_closing_quote {rest : List Char} (hr : rest.head? ≠ some '"') (n : Nat) :
    word true (backslashes (2 * n) ++ '"' :: rest) =
      (backslashes n ++ (word false rest).1, (word false rest).2) := by
  rw [word_of_run_cons (run_of_ne (by decide) _ rest)]
  simp [hr]

theorem word_plain {inQuotes : Bool} {c : Char} (hs : c ≠ '\\') (hq : c ≠ '"')
    (hb : isBlank c = false ∨ inQuotes = true) (n : Nat) (rest : List Char) :
    word inQuotes (backslashes n ++ c :: rest) =
      (backslashes n ++ c :: (word inQuotes rest).1, (word inQuotes rest).2) := by
  have hb' : (isBlank c && !inQuotes) = false := by
    rcases hb with hb | hb <;> simp [hb]
  rw [word_of_run_cons (run_of_ne hs n rest)]
  simp [hq, hb']

-- What may follow an argument that is complete.
def AtBoundary (rest : List Char) : Prop :=
  ∀ c ∈ rest.head?, isBlank c = true

theorem atBoundary_nil : AtBoundary [] := by
  simp [AtBoundary]

theorem atBoundary_space (rest : List Char) : AtBoundary (' ' :: rest) := by
  simp [AtBoundary, isBlank]

theorem AtBoundary.head_ne_quote {rest : List Char} (h : AtBoundary rest) :
    rest.head? ≠ some '"' := by
  intro hq
  have hb := h '"' hq
  simp [isBlank] at hb

theorem word_atBoundary {rest : List Char} (h : AtBoundary rest) (n : Nat) :
    word false (backslashes n ++ rest) = (backslashes n, rest) := by
  cases rest with
  | nil => simpa using word_backslashes false n
  | cons c rest =>
    have hb : isBlank c = true := h c rfl
    obtain ⟨hs, hq⟩ := ne_of_isBlank hb
    rw [word_of_run_cons (run_of_ne hs n rest)]
    simp [hq, hb]

-- All arguments

theorem splitChars_of_dropWhile_nil {text : List Char} (h : text.dropWhile isBlank = []) :
    splitChars text = [] := by
  rw [splitChars]
  split <;> simp_all

theorem splitChars_of_dropWhile_cons {text rest : List Char} {c : Char}
    (h : text.dropWhile isBlank = c :: rest) :
    splitChars text = (word false (c :: rest)).1 :: splitChars (word false (c :: rest)).2 := by
  rw [splitChars]
  split
  · simp_all
  · simp_all only [List.cons.injEq]

theorem splitChars_nil : splitChars [] = [] :=
  splitChars_of_dropWhile_nil rfl

theorem splitChars_cons {c : Char} (hc : isBlank c = false) (text : List Char) :
    splitChars (c :: text) =
      (word false (c :: text)).1 :: splitChars (word false (c :: text)).2 :=
  splitChars_of_dropWhile_cons (by simp [hc])

theorem splitChars_blank {c : Char} (hc : isBlank c = true) (text : List Char) :
    splitChars (c :: text) = splitChars text := by
  have hd : (c :: text).dropWhile isBlank = text.dropWhile isBlank := by simp [hc]
  cases ht : text.dropWhile isBlank with
  | nil => rw [splitChars_of_dropWhile_nil ht, splitChars_of_dropWhile_nil (hd.trans ht)]
  | cons d rest => rw [splitChars_of_dropWhile_cons ht, splitChars_of_dropWhile_cons (hd.trans ht)]

theorem map_toList_split (text : String) : (split text).map String.toList = splitChars text.toList := by
  simp [split, Function.comp_def]

theorem split_eq_iff (text : String) (args : List String) :
    split text = args ↔ splitChars text.toList = args.map String.toList := by
  constructor
  · rintro rfl
    rw [map_toList_split]
  · intro h
    simp [split, h, Function.comp_def]

end TermBridge.CommandLine
