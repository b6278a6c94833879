import TermBridge.CommandLine.Encode

namespace TermBridge.CommandLine

-- The number of backslashes at the front, and what follows them.
def run : List Char → Nat × List Char
  | [] => (0, [])
  | c :: rest => if c = '\\' then ((run rest).1 + 1, (run rest).2) else (0, c :: rest)

theorem run_length (text : List Char) : (run text).1 + (run text).2.length = text.length := by
  induction text with
  | nil => rfl
  | cons c rest ih =>
    simp only [run]
    split
    · simp only [List.length_cons]
      omega
    · simp

theorem length_lt_of_run {text rest : List Char} {n : Nat} {c : Char} (h : run text = (n, c :: rest)) :
    rest.length < text.length := by
  have hl := run_length text
  rw [h] at hl
  simp only [List.length_cons] at hl
  omega

-- Reads one argument. The blank that ends it is left in the rest.
def word (inQuotes : Bool) (text : List Char) : List Char × List Char :=
  match _h : run text with
  | (n, []) => (backslashes n, [])
  | (n, c :: rest) =>
    if c = '"' then
      if n % 2 = 1 then
        let after := word inQuotes rest
        (backslashes (n / 2) ++ '"' :: after.1, after.2)
      else if inQuotes && rest.head? == some '"' then
        let after := word true rest.tail
        (backslashes (n / 2) ++ '"' :: after.1, after.2)
      else
        let after := word (!inQuotes) rest
        (backslashes (n / 2) ++ after.1, after.2)
    else if isBlank c && !inQuotes then (backslashes n, c :: rest)
    else
      let after := word inQuotes rest
      (backslashes n ++ c :: after.1, after.2)
termination_by text.length
decreasing_by
  all_goals
    have hl := length_lt_of_run _h
    have ht : rest.tail.length ≤ rest.length := by simp
    omega

theorem word_rest_length_le (inQuotes : Bool) (text : List Char) :
    (word inQuotes text).2.length ≤ text.length := by
  fun_induction word inQuotes text with
  | case1 => simp
  | case2 _ text n rest _ after h ih => exact Nat.le_trans ih (Nat.le_of_lt (length_lt_of_run h))
  | case3 _ text n rest _ _ after h ih =>
    have hl := length_lt_of_run h
    simp only [List.length_tail] at ih
    simp only [after]
    omega
  | case4 _ text n rest _ _ after h ih => exact Nat.le_trans ih (Nat.le_of_lt (length_lt_of_run h))
  | case5 _ text n c rest h _ _ => exact length_lt_of_run h
  | case6 _ text n c rest h _ _ after ih => exact Nat.le_trans ih (Nat.le_of_lt (length_lt_of_run h))

-- An argument that begins with something else than a blank takes at least that character.
theorem word_rest_length_lt (c : Char) (text : List Char) (hc : isBlank c = false) :
    (word false (c :: text)).2.length < (c :: text).length := by
  rw [word]
  split
  · simp
  · rename_i n d rest h
    have hl := length_lt_of_run h
    split
    · split
      · exact Nat.lt_of_le_of_lt (word_rest_length_le _ _) hl
      · simp only [Bool.false_and, Bool.false_eq_true, if_false, Bool.not_false]
        exact Nat.lt_of_le_of_lt (word_rest_length_le _ _) hl
    · split
      · -- the run cannot be empty here, because the text does not begin with a blank
        rename_i hb
        have hl := run_length (c :: text)
        rw [h] at hl
        cases n with
        | zero =>
          simp only [run] at h
          split at h
          · simp at h
          · simp_all
        | succ n =>
          simp only [List.length_cons] at hl ⊢
          omega
      · exact Nat.lt_of_le_of_lt (word_rest_length_le _ _) hl

theorem length_dropWhile_le (p : Char → Bool) (text : List Char) :
    (text.dropWhile p).length ≤ text.length :=
  (List.dropWhile_sublist p).length_le

theorem head_of_dropWhile {p : Char → Bool} {c : Char} {text rest : List Char}
    (h : text.dropWhile p = c :: rest) : p c = false := by
  induction text with
  | nil => simp at h
  | cons d text ih =>
    rw [List.dropWhile_cons] at h
    split at h
    · exact ih h
    · simp_all

def splitChars (text : List Char) : List (List Char) :=
  match _h : text.dropWhile isBlank with
  | [] => []
  | c :: rest =>
    let first := word false (c :: rest)
    first.1 :: splitChars first.2
termination_by text.length
decreasing_by
  have hc := head_of_dropWhile _h
  have hw := word_rest_length_lt c rest hc
  have hd := length_dropWhile_le isBlank text
  rw [_h] at hd
  omega

def split (text : String) : List String :=
  (splitChars text.toList).map String.ofList

end TermBridge.CommandLine
