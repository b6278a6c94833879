import TermBridge.CommandLine.Quoting
import TermBridge.Proofs.CommandLine.OnePass

namespace TermBridge.CommandLine.Scanner

variable {s next : Scanner} {n : Nat} {c : Char} {text : List Char} {inQuotes : Bool}

theorem scan_append (text more : List Char) : scan (text ++ more) = more.foldl step (scan text) :=
  List.foldl_append

theorem finish_of_ne_between (hm : s.mode ≠ .between) :
    s.finish = s.done.reverse ++ [(s.push s.pending []).reverse] := by
  cases hmode : s.mode <;> simp_all [finish]

-- A blank outside quotes does nothing between arguments, and it ends an argument that is open.
theorem step_separator (hb : isBlank c = true) (hm : s.mode ≠ .quoted) :
    s.mode = .between ∧ s.step c = s ∨
      s.mode ≠ .between ∧ s.step c = between ((s.push s.pending []).reverse :: s.done) := by
  obtain ⟨hslash, hquote⟩ := ne_of_isBlank hb
  cases hmode : s.mode with
  | between =>
    left
    exact ⟨rfl, by simp [step, hslash, hquote, hb, hmode]⟩
  | quoted => exact False.elim (hm hmode)
  | unquoted =>
    right
    exact ⟨by decide, step_blank hb (.inl hmode)⟩
  | justClosed =>
    right
    exact ⟨by decide, step_blank hb (.inr hmode)⟩

-- Between arguments nothing is held back, and no argument has been begun.
def Settled (s : Scanner) : Prop :=
  s.mode = .between → s = between s.done

theorem settled_step (hs : s.Settled) (c : Char) : (s.step c).Settled := by
  by_cases hslash : c = '\\'
  · subst hslash
    intro hm
    cases hmode : s.mode <;> simp [step, Mode.entered, hmode] at hm
  by_cases hquote : c = '"'
  · subst hquote
    intro hm
    cases hmode : s.mode <;> by_cases hodd : s.pending % 2 = 1 <;>
      simp [step, Mode.entered, hmode, hodd] at hm
  by_cases hplain : isBlank c = false ∨ s.mode = .quoted
  · intro hm
    rw [step_plain hslash hquote hplain] at hm
    cases hmode : s.mode <;> simp [Mode.entered, hmode] at hm
  · simp only [not_or, Bool.not_eq_false] at hplain
    rcases step_separator hplain.1 hplain.2 with ⟨-, hstep⟩ | ⟨-, hstep⟩
    · rwa [hstep]
    · rw [hstep]
      exact fun _ => rfl

theorem settled_scan (text : List Char) : (scan text).Settled := by
  have hfoldl : ∀ s : Scanner, s.Settled → (text.foldl step s).Settled := by
    induction text with
    | nil => exact fun s hs => hs
    | cons c rest ih => exact fun s hs => ih _ (settled_step hs c)
  exact hfoldl start fun _ => rfl

theorem entered_eq_quoted_iff (m : Mode) : m.entered = .quoted ↔ m = .quoted := by
  cases m <;> simp [Mode.entered]

theorem held_mode_eq_quoted_iff (s : Scanner) (n : Nat) : (s.held n).mode = .quoted ↔ s.mode = .quoted := by
  by_cases hn : n = 0 <;> simp [held, hn, entered_eq_quoted_iff]

theorem held_eq_self (hm : (s.held n).mode = .between ∨ (s.held n).mode = .justClosed) :
    n = 0 ∧ s.held n = s := by
  by_cases hn : n = 0
  · simp [held, hn]
  · cases hmode : s.mode <;> simp [held, hn, hmode, Mode.entered] at hm

-- The scanner is where the splitter is, with `text` to read. The two differ behind a quote that closes,
-- where the splitter has looked at the next character and the scanner waits for it.
structure Stands (inQuotes : Bool) (text : List Char) (s : Scanner) : Prop where
  pending : s.pending = 0
  quoted : s.mode = .quoted ↔ inQuotes = true
  justClosed : s.mode = .justClosed → text.head? ≠ some '"'

theorem Stands.held_pending (hs : Stands inQuotes text s) (n : Nat) : (s.held n).pending = n := by
  simp [held, hs.pending]

theorem Stands.held_quoted (hs : Stands inQuotes text s) (n : Nat) :
    (s.held n).mode = .quoted ↔ inQuotes = true :=
  (held_mode_eq_quoted_iff s n).trans hs.quoted

theorem stands_of_entered (hq : s.mode = .quoted ↔ inQuotes = true) (hp : next.pending = 0)
    (hm : next.mode = s.mode.entered) : Stands inQuotes text next := by
  constructor
  case pending => exact hp
  case quoted => rw [hm, entered_eq_quoted_iff, hq]
  case justClosed =>
    rw [hm]
    cases s.mode <;> simp [Mode.entered]

theorem stands_step_other (hq : s.mode = .quoted ↔ inQuotes = true)
    (hp : s.mode = .between → s.pending = 0) (hslash : c ≠ '\\') (hquote : c ≠ '"') :
    Stands inQuotes text (s.step c) := by
  by_cases hplain : isBlank c = false ∨ s.mode = .quoted
  · rw [step_plain hslash hquote hplain]
    exact stands_of_entered hq rfl rfl
  · simp only [not_or, Bool.not_eq_false] at hplain
    have hmode : (s.step c).mode = .between ∧ (s.step c).pending = 0 := by
      rcases step_separator hplain.1 hplain.2 with ⟨hm, hstep⟩ | ⟨-, hstep⟩
      · rw [hstep]
        exact ⟨hm, hp hm⟩
      · rw [hstep]
        exact ⟨rfl, rfl⟩
    have hnot : inQuotes ≠ true := fun h => hplain.2 (hq.mpr h)
    exact ⟨hmode.2, by simp [hmode.1, hnot], by simp [hmode.1]⟩

-- By the splitter's own recursion, with the scanner at any place that corresponds to it.
theorem mode_foldl_iff (hs : Stands inQuotes text s) :
    (text.foldl step s).mode = .quoted ↔ endsQuoted inQuotes text = true := by
  fun_induction endsQuoted inQuotes text generalizing s with
  | case1 inQuotes text n h =>
    have htext : text = backslashes n := by simpa using eq_append_of_run h
    rw [htext, foldl_step_backslashes, hs.held_quoted]
  | case2 inQuotes text n rest hn h ih =>
    have hodd : (s.held n).pending = 2 * (n / 2) + 1 := by
      rw [hs.held_pending]
      omega
    rw [foldl_step_of_run h, step_escaped_quote hodd]
    exact ih (stands_of_entered (hs.held_quoted n) rfl rfl)
  | case3 inQuotes text n rest hn hd h ih =>
    have heven : (s.held n).pending = 2 * (n / 2) := by
      rw [hs.held_pending]
      omega
    simp only [Bool.and_eq_true, beq_iff_eq, List.head?_eq_some_iff] at hd
    obtain ⟨rfl, tail, rfl⟩ := hd
    have hmode : (s.held n).mode = .quoted := (hs.held_quoted n).mpr rfl
    rw [foldl_step_of_run h, step_quote heven (by simp [hmode]), List.foldl_cons,
      step_doubled_quote rfl (by simp [hmode])]
    exact ih ⟨rfl, by simp, by simp⟩
  | case4 inQuotes text n rest hn hd h ih =>
    have heven : (s.held n).pending = 2 * (n / 2) := by
      rw [hs.held_pending]
      omega
    -- the scanner does not wait for this quote: then it would have been doubled
    have hclosed : (s.held n).mode ≠ .justClosed := by
      intro hm
      obtain ⟨rfl, hself⟩ := held_eq_self (.inr hm)
      rw [hself] at hm
      apply hs.justClosed hm
      rw [eq_append_of_run h]
      rfl
    rw [foldl_step_of_run h, step_quote heven hclosed]
    apply ih
    cases inQuotes with
    | false =>
      have hmode : (s.held n).mode ≠ .quoted := by simp [hs.held_quoted n]
      exact ⟨rfl, by simp [hmode], by simp [hmode]⟩
    | true =>
      have hmode : (s.held n).mode = .quoted := (hs.held_quoted n).mpr rfl
      exact ⟨rfl, by simp [hmode], fun _ => by simpa using hd⟩
  | case5 inQuotes text n c rest h hc ih =>
    have hbetween : (s.held n).mode = .between → (s.held n).pending = 0 := by
      intro hm
      rw [(held_eq_self (.inl hm)).2, hs.pending]
    rw [foldl_step_of_run h]
    exact ih (stands_step_other (hs.held_quoted n) hbetween (run_head_ne h) hc)

theorem mode_scan_iff (text : List Char) :
    (scan text).mode = .quoted ↔ endsQuoted false text = true :=
  mode_foldl_iff ⟨rfl, by simp [start], by simp [start]⟩

theorem endsOutsideQuotes_iff (text : List Char) :
    EndsOutsideQuotes text ↔ endsQuoted false text = false := by
  rw [EndsOutsideQuotes, Ne, mode_scan_iff, Bool.not_eq_true]

end TermBridge.CommandLine.Scanner
