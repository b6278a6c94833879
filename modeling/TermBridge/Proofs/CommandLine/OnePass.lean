import TermBridge.CommandLine.Scanner
import TermBridge.Proofs.CommandLine.Word

namespace TermBridge.CommandLine

namespace Scanner

variable {s : Scanner} {n : Nat} {c : Char} {text current : List Char} {done : List (List Char)}

-- Between arguments, and inside of one with nothing held back.

def between (done : List (List Char)) : Scanner := ⟨.between, 0, [], done⟩

def inside (inQuotes : Bool) (current : List Char) (done : List (List Char)) : Scanner :=
  ⟨if inQuotes then .quoted else .unquoted, 0, current, done⟩

theorem reverse_push (s : Scanner) (n : Nat) (chars : List Char) :
    (s.push n chars).reverse = s.current.reverse ++ backslashes n ++ chars.reverse := by
  simp [push, backslashes]

-- The rules

theorem step_escaped_quote (hn : s.pending = 2 * n + 1) :
    s.step '"' =
      { s with mode := s.mode.entered, pending := 0, current := s.push n ['"'] } := by
  have hodd : (2 * n + 1) % 2 = 1 := by omega
  have hhalf : (2 * n + 1) / 2 = n := by omega
  simp [step, hn, hodd, hhalf]

theorem step_quote (hn : s.pending = 2 * n) (hm : s.mode ≠ .justClosed) :
    s.step '"' =
      { s with
        mode := if s.mode = .quoted then .justClosed else .quoted
        pending := 0
        current := s.push n [] } := by
  cases hs : s.mode <;> simp_all [step]

theorem step_doubled_quote (hn : s.pending = 0) (hm : s.mode = .justClosed) :
    s.step '"' = { s with mode := .quoted, current := s.push 0 ['"'] } := by
  simp [step, hn, hm]

theorem step_plain (hs : c ≠ '\\') (hq : c ≠ '"') (hb : isBlank c = false ∨ s.mode = .quoted) :
    s.step c =
      { s with mode := s.mode.entered, pending := 0, current := s.push s.pending [c] } := by
  by_cases hc : isBlank c = true
  · have hm : s.mode = .quoted := hb.resolve_left (by simp [hc])
    simp [step, hs, hq, hc, hm, Mode.entered]
  · simp [step, hs, hq, hc]

theorem step_blank (hb : isBlank c = true) (hm : s.mode = .unquoted ∨ s.mode = .justClosed) :
    s.step c = between ((s.push s.pending []).reverse :: s.done) := by
  obtain ⟨hs, hq⟩ := ne_of_isBlank hb
  rcases hm with hm | hm <;> simp [step, hs, hq, hb, hm, between]

theorem step_between (hb : isBlank c = true) : (between done).step c = between done := by
  obtain ⟨hs, hq⟩ := ne_of_isBlank hb
  simp [step, hs, hq, hb, between]

-- Between arguments the first character of the next one is read as it would be inside of it.
theorem step_between_eq_inside (hb : isBlank c = false) :
    (between done).step c = (inside false [] done).step c := by
  simp [step, hb, between, inside, Mode.entered, push]

-- Behind a closing quote all but a quote is read as it would be outside quotes.
theorem step_justClosed_eq_inside (hq : c ≠ '"') :
    (⟨.justClosed, 0, current, done⟩ : Scanner).step c = (inside false current done).step c := by
  simp [step, hq, inside, Mode.entered, push]

-- The pass

theorem entered_entered (m : Mode) : m.entered.entered = m.entered := by
  cases m <;> rfl

-- With a run of backslashes held back.
def held (s : Scanner) (n : Nat) : Scanner :=
  { s with mode := if n = 0 then s.mode else s.mode.entered, pending := s.pending + n }

theorem foldl_step_backslashes (s : Scanner) (n : Nat) : (backslashes n).foldl step s = s.held n := by
  induction n generalizing s with
  | zero => rfl
  | succ n ih =>
    rw [backslashes_succ, List.foldl_cons, ih]
    by_cases hn : n = 0 <;> simp [held, step, hn, entered_entered, Nat.add_assoc, Nat.add_comm 1]

-- A run as the splitter reads it, and the character behind it.
theorem foldl_step_of_run {rest : List Char} (h : run text = (n, c :: rest)) (s : Scanner) :
    text.foldl step s = rest.foldl step ((s.held n).step c) := by
  rw [eq_append_of_run h, List.foldl_append, foldl_step_backslashes, List.foldl_cons]

theorem held_inside (inQuotes : Bool) (n : Nat) :
    (inside inQuotes current done).held n = { inside inQuotes current done with pending := n } := by
  cases inQuotes <;> simp [held, inside, Mode.entered]

theorem foldl_backslashes (inQuotes : Bool) (n : Nat) :
    (backslashes n).foldl step (inside inQuotes current done) =
      { inside inQuotes current done with pending := n } := by
  rw [foldl_step_backslashes, held_inside]

theorem foldl_of_run {rest : List Char} (h : run text = (n, c :: rest)) (inQuotes : Bool) :
    text.foldl step (inside inQuotes current done) =
      rest.foldl step (({ inside inQuotes current done with pending := n } : Scanner).step c) := by
  rw [foldl_step_of_run h, held_inside]

-- Without a quote next it does not matter that a quote has just closed.
theorem finish_justClosed (hq : text.head? ≠ some '"') :
    (text.foldl step ⟨.justClosed, 0, current, done⟩).finish =
      (text.foldl step (inside false current done)).finish := by
  cases text with
  | nil => rfl
  | cons c rest =>
    have hc : c ≠ '"' := by simpa using hq
    rw [List.foldl_cons, List.foldl_cons, step_justClosed_eq_inside hc]

-- An argument ends at a boundary, with the backslashes that are held back.
theorem finish_atBoundary (hb : AtBoundary text) :
    (text.foldl step { inside false current done with pending := n }).finish =
      (text.foldl step (between ((current.reverse ++ backslashes n) :: done))).finish := by
  cases text with
  | nil => simp [inside, between, finish, reverse_push]
  | cons c rest =>
    have hc : isBlank c = true := hb c rfl
    rw [List.foldl_cons, List.foldl_cons, step_blank hc (.inl rfl), step_between hc]
    simp [inside, reverse_push]

-- What is left to read when an argument is complete is read from between arguments.
theorem finish_inside (inQuotes : Bool) (text current : List Char) (done : List (List Char)) :
    (text.foldl step (inside inQuotes current done)).finish =
      ((word inQuotes text).2.foldl step
        (between ((current.reverse ++ (word inQuotes text).1) :: done))).finish := by
  fun_induction word inQuotes text generalizing current with
  | case1 inQuotes text n h =>
    have htext : text = backslashes n := by simpa using eq_append_of_run h
    rw [htext, foldl_backslashes]
    cases inQuotes <;> simp [inside, between, finish, reverse_push]
  | case2 inQuotes text n rest hn after h ih =>
    have hodd : n = 2 * (n / 2) + 1 := by omega
    rw [foldl_of_run h, step_escaped_quote hodd]
    have hrest := ih ('"' :: (backslashes (n / 2) ++ current))
    cases inQuotes <;>
      simpa [inside, Mode.entered, push, backslashes, after] using hrest
  | case3 inQuotes text n rest hn hd after h ih =>
    have heven : n = 2 * (n / 2) := by omega
    simp only [Bool.and_eq_true, beq_iff_eq, List.head?_eq_some_iff] at hd
    obtain ⟨rfl, tail, rfl⟩ := hd
    -- the first quote closes, and the second one takes that back
    rw [foldl_of_run h, step_quote heven (by simp [inside]), List.foldl_cons,
      step_doubled_quote rfl (by simp [inside])]
    have hrest := ih ('"' :: (backslashes (n / 2) ++ current))
    simpa [inside, push, backslashes, after] using hrest
  | case4 inQuotes text n rest hn hd after h ih =>
    have heven : n = 2 * (n / 2) := by omega
    have hrest := ih (backslashes (n / 2) ++ current)
    cases inQuotes with
    | false =>
      rw [foldl_of_run h, step_quote heven (by simp [inside])]
      simpa [inside, push, backslashes, after] using hrest
    | true =>
      have hq : rest.head? ≠ some '"' := by simpa using hd
      rw [foldl_of_run h, step_quote heven (by simp [inside])]
      simp only [inside, push, if_true, List.nil_append]
      rw [finish_justClosed hq]
      simpa [inside, backslashes, after] using hrest
  | case5 inQuotes text n c rest h hc hb =>
    simp only [Bool.and_eq_true, Bool.not_eq_true'] at hb
    obtain ⟨hblank, rfl⟩ := hb
    have hbound : AtBoundary (c :: rest) := by
      intro d hd
      simp only [List.head?_cons, Option.mem_some_iff] at hd
      exact hd ▸ hblank
    rw [eq_append_of_run h, List.foldl_append, foldl_backslashes]
    exact finish_atBoundary hbound
  | case6 inQuotes text n c rest h hc hb after ih =>
    have hs : c ≠ '\\' := run_head_ne h
    have hplain : isBlank c = false ∨
        ({ inside inQuotes current done with pending := n } : Scanner).mode = .quoted := by
      cases inQuotes with
      | false => exact .inl (by simpa using hb)
      | true => exact .inr rfl
    rw [foldl_of_run h, step_plain hs hc hplain]
    have hrest := ih (c :: (backslashes n ++ current))
    cases inQuotes <;>
      simpa [inside, Mode.entered, push, backslashes, after] using hrest

theorem foldl_dropWhile_isBlank (text : List Char) (done : List (List Char)) :
    (text.dropWhile isBlank).foldl step (between done) = text.foldl step (between done) := by
  induction text with
  | nil => rfl
  | cons c rest ih =>
    cases hc : isBlank c with
    | true => rw [List.dropWhile_cons_of_pos hc, ih, List.foldl_cons, step_between hc]
    | false => rw [List.dropWhile_cons_of_neg (by simp [hc])]

theorem finish_between (text : List Char) (done : List (List Char)) :
    (text.foldl step (between done)).finish = done.reverse ++ splitChars text := by
  fun_induction splitChars text generalizing done with
  | case1 text h =>
    rw [← foldl_dropWhile_isBlank, h]
    simp [between, finish]
  | case2 text c rest h first ih =>
    have hc : isBlank c = false := head_of_dropWhile h
    rw [← foldl_dropWhile_isBlank, h, List.foldl_cons, step_between_eq_inside hc, ← List.foldl_cons,
      finish_inside, ih]
    simp [first]

end Scanner

-- Splitting is one pass from left to right that never looks at the next character.
theorem splitChars_eq_scan (text : List Char) : splitChars text = (Scanner.scan text).finish :=
  (Scanner.finish_between text []).symm

theorem split_eq_scan (text : String) :
    split text = (Scanner.scan text.toList).finish.map String.ofList := by
  rw [split, splitChars_eq_scan]

-- A quote that is never closed takes the blank and the last backslash with it.
example : split "\\\\\"a b\"\"c\\\" d\\" = ["\\a b\"c\" d\\"] := by
  decide +kernel

end TermBridge.CommandLine
