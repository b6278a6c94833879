import TermBridge.Proofs.CommandLine.Word

namespace TermBridge.CommandLine

theorem mem_escape {quoted : Bool} {pending : Nat} {arg : List Char} {c : Char}
    (h : c ∈ escape quoted pending arg) : c = '\\' ∨ c ∈ arg := by
  induction arg generalizing pending with
  | nil => exact .inl (mem_backslashes h)
  | cons d rest ih =>
    simp only [escape] at h
    split at h
    · exact (ih h).imp_right (List.mem_cons_of_mem d)
    · split at h
      all_goals
        rcases List.mem_append.mp h with h | h
        · exact .inl (mem_backslashes h)
        · rcases List.mem_cons.mp h with rfl | h
          · exact .inr List.mem_cons_self
          · exact (ih h).imp_right (List.mem_cons_of_mem d)

theorem length_le_escape (quoted : Bool) (pending : Nat) (arg : List Char) :
    pending + arg.length ≤ (escape quoted pending arg).length := by
  induction arg generalizing pending with
  | nil =>
    simp only [escape, length_backslashes, List.length_nil]
    split <;> omega
  | cons c rest ih =>
    have h := ih (pending + 1)
    have h0 := ih 0
    simp only [escape]
    split
    · simp only [List.length_cons]
      omega
    · split
      all_goals
        simp only [List.length_append, List.length_cons, length_backslashes]
        omega

-- The induction is on the argument, with the run held back as an accumulator. A blank is plain only
-- between quotes, so an argument without quotes must not hold one.
theorem word_escape (quoted : Bool) (pending : Nat) (arg rest : List Char)
    (hb : quoted = false → ∀ c ∈ arg, isBlank c = false) (hr : AtBoundary rest) :
    word quoted (escape quoted pending arg ++ if quoted then '"' :: rest else rest) =
      (backslashes pending ++ arg, rest) := by
  induction arg generalizing pending with
  | nil =>
    cases quoted with
    | false => simpa [escape] using word_atBoundary hr pending
    | true =>
      have hw : word false rest = ([], rest) := by simpa [backslashes] using word_atBoundary hr 0
      simp only [escape, if_true]
      rw [word_closing_quote hr.head_ne_quote, hw]
  | cons c arg ih =>
    have ih := fun n => ih n fun hq d hd => hb hq d (List.mem_cons_of_mem c hd)
    simp only [escape]
    by_cases hs : c = '\\'
    · subst hs
      rw [if_pos rfl, ih, backslashes_append_cons]
    rw [if_neg hs]
    by_cases hq : c = '"'
    · subst hq
      rw [if_pos rfl, List.append_assoc, List.cons_append, word_escaped_quote, ih]
      rfl
    rw [if_neg hq, List.append_assoc, List.cons_append, word_plain hs hq, ih]
    · rfl
    · cases quoted with
      | false => exact .inl (hb rfl c List.mem_cons_self)
      | true => exact .inr rfl

-- Between quotes every argument can stand, also one that needs none.
theorem word_quoted (arg : List Char) {rest : List Char} (hr : AtBoundary rest) :
    word false ('"' :: (escape true 0 arg ++ '"' :: rest)) = (arg, rest) := by
  rw [word_quote]
  simpa [backslashes] using word_escape true 0 arg rest (by simp) hr

theorem word_encodeArg (arg : List Char) {rest : List Char} (hr : AtBoundary rest) :
    word false (encodeArg arg ++ rest) = (arg, rest) := by
  unfold encodeArg
  split
  · simpa using word_quoted arg hr
  · rename_i hn
    have hb : ∀ c ∈ arg, isBlank c = false := by
      intro c hc
      simp only [needsQuotes, Bool.or_eq_true, List.any_eq_true, not_or, not_exists, not_and] at hn
      simpa using hn.2 c hc
    exact word_escape false 0 arg rest (fun _ => hb) hr

-- An argument never begins with a blank, so the splitter begins to read where it begins.
theorem encodeArg_eq_cons (arg : List Char) :
    ∃ c tail, encodeArg arg = c :: tail ∧ isBlank c = false := by
  unfold encodeArg
  split
  · exact ⟨'"', _, rfl, by decide⟩
  · rename_i hn
    simp only [needsQuotes, Bool.or_eq_true, List.isEmpty_iff, List.any_eq_true, not_or, not_exists,
      not_and] at hn
    have hl := length_le_escape false 0 arg
    have hp : 0 < arg.length := List.length_pos_iff.mpr hn.1
    cases he : escape false 0 arg with
    | nil =>
      rw [he] at hl
      simp only [List.length_nil] at hl
      omega
    | cons c tail =>
      refine ⟨c, tail, rfl, ?_⟩
      rcases mem_escape (he ▸ List.mem_cons_self : c ∈ escape false 0 arg) with rfl | hc
      · decide
      · simpa using hn.2 c hc

theorem splitChars_encodeArg (arg : List Char) {rest : List Char} (hr : AtBoundary rest) :
    splitChars (encodeArg arg ++ rest) = arg :: splitChars rest := by
  obtain ⟨c, tail, he, hc⟩ := encodeArg_eq_cons arg
  have hw := word_encodeArg arg hr
  rw [he, List.cons_append] at hw ⊢
  rw [splitChars_cons hc, hw]

theorem encodeChars_cons_cons (first second : List Char) (rest : List (List Char)) :
    encodeChars (first :: second :: rest) = encodeArg first ++ ' ' :: encodeChars (second :: rest) := by
  simp [encodeChars, List.intercalate_cons_cons]

theorem splitChars_encodeChars (argv : List (List Char)) : splitChars (encodeChars argv) = argv := by
  induction argv with
  | nil => exact splitChars_nil
  | cons first rest ih =>
    cases rest with
    | nil =>
      have hs := splitChars_encodeArg first atBoundary_nil
      rw [splitChars_nil, List.append_nil] at hs
      simpa [encodeChars, List.intercalate_singleton] using hs
    | cons second rest =>
      rw [encodeChars_cons_cons, splitChars_encodeArg first (atBoundary_space _),
        splitChars_blank (by decide), ih]

-- Every argument vector survives being written as one command line, whatever its arguments hold.
theorem split_encode (argv : List String) : split (encode argv) = argv := by
  simp only [split, encode, String.toList_ofList, splitChars_encodeChars, List.map_map]
  exact (List.map_congr_left fun arg _ => String.ofList_toList).trans (List.map_id argv)

end TermBridge.CommandLine
