import TermBridge.Launch
import TermBridge.Proofs.CommandLine.Accounting
import TermBridge.Proofs.CommandLine.RoundTrip
import TermBridge.Proofs.Text.Utf16
import TermBridge.Session.Pty

namespace TermBridge

namespace CommandLine

-- The induction moves the backslashes at the front of the text to the run before it, so that the
-- closing quote is reached with the whole run that stands before it.
theorem word_before_closing_quote_iff {text rest : List Char} (hq : '"' ∉ text)
    (hr : AtBoundary rest) (n : Nat) :
    word true (backslashes n ++ (text ++ '"' :: rest)) = (backslashes n ++ text, rest) ↔
      (backslashes n ++ text).getLast? ≠ some '\\' := by
  induction text generalizing n with
  | nil =>
    have hw : word false rest = ([], rest) := by simpa [backslashes] using word_atBoundary hr 0
    have hlast : (backslashes n ++ []).getLast? ≠ some '\\' ↔ n = 0 := by
      simp [backslashes, List.getLast?_replicate]
    rw [hlast, List.nil_append]
    obtain ⟨m, hm⟩ : ∃ m, n = 2 * m ∨ n = 2 * m + 1 := ⟨n / 2, by omega⟩
    rcases hm with rfl | rfl
    · rw [word_closing_quote hr.head_ne_quote, hw]
      constructor
      · intro h
        have hl := congrArg (fun w => w.1.length) h
        simp only [List.length_append, length_backslashes, List.length_nil] at hl
        omega
      · intro h
        obtain rfl : m = 0 := by omega
        rfl
    · rw [word_escaped_quote]
      constructor
      · intro h
        have hc := congrArg (fun w => w.1.count '"') h
        simp only [List.count_append, count_quote_backslashes, List.count_cons_self,
          List.count_nil] at hc
        omega
      · intro h
        omega
  | cons c text ih =>
    simp only [List.mem_cons, not_or] at hq
    by_cases hs : c = '\\'
    · subst hs
      rw [List.cons_append, backslashes_append_cons, backslashes_append_cons, ih hq.2]
    · have hi := ih hq.2 0
      simp only [backslashes, List.replicate_zero, List.nil_append] at hi
      rw [List.cons_append, word_plain hs (Ne.symm hq.1) (.inr rfl)]
      have hlast : (backslashes n ++ c :: text).getLast? ≠ some '\\' ↔ text.getLast? ≠ some '\\' := by
        cases text with
        | nil => simp [hs]
        | cons d text => simp
      rw [hlast, ← hi]
      simp [Prod.ext_iff]

-- A quote in the path would cost a character more than there are.
theorem word_pasted_iff (path : List Char) {rest : List Char} (hr : AtBoundary rest)
    (hne : rest ≠ []) :
    word false ('"' :: (path ++ '"' :: rest)) = (path, rest) ↔
      '"' ∉ path ∧ path.getLast? ≠ some '\\' := by
  have hiff := fun hq : '"' ∉ path => word_before_closing_quote_iff hq hr 0
  simp only [backslashes, List.replicate_zero, List.nil_append] at hiff
  rw [word_quote]
  constructor
  · intro hw
    have hq : '"' ∉ path := by
      have hne' : (word true (path ++ '"' :: rest)).2 ≠ [] := by rwa [hw]
      have hl := length_word_add_count_le hne'
      rw [hw] at hl
      simp only [Bool.toNat_true, List.length_append, List.length_cons] at hl
      exact List.count_eq_zero.mp (by omega)
    exact ⟨hq, (hiff hq).mp hw⟩
  · rintro ⟨hq, hl⟩
    exact (hiff hq).mpr hl

theorem splitChars_flag {flag : List Char} (hself : encodeArg flag = flag)
    (argv : List (List Char)) :
    splitChars (' ' :: (flag ++ ' ' :: encodeChars argv)) = flag :: argv := by
  have hw := splitChars_encodeArg flag (atBoundary_space (encodeChars argv))
  rw [hself, splitChars_blank (by decide), splitChars_encodeChars] at hw
  rw [splitChars_blank (by decide), hw]

-- What is left after the first argument begins with a blank and holds the mark as often as the flag
-- and the user's words together. A later start would lose at least the flag's own mark.
theorem eq_of_suffix_of_splitChars {mark : Char} {more rest : List Char} {argv : List (List Char)}
    (hq : mark ≠ '"') (hs : mark ≠ '\\') (hb : isBlank mark = false) (hr : AtBoundary rest)
    (hsplit : splitChars rest = (mark :: more) :: argv)
    (hsuffix : rest <:+ ' ' :: (mark :: more ++ ' ' :: encodeChars argv)) :
    rest = ' ' :: (mark :: more ++ ' ' :: encodeChars argv) := by
  rcases List.suffix_cons_iff.mp hsuffix with h | h
  · exact h
  rw [List.cons_append] at h
  rcases List.suffix_cons_iff.mp h with h | h
  · -- the flag's first character is no boundary
    have hm : isBlank mark = true := hr mark (by rw [h]; rfl)
    rw [hb] at hm
    exact False.elim (Bool.false_ne_true hm)
  · have hc := count_flatten_splitChars hq hs hb rest
    have hargs := count_flatten_splitChars hq hs hb (encodeChars argv)
    have hle := List.IsSuffix.count_le mark h
    have hspace : (' ' == mark) = false := by
      rw [beq_eq_false_iff_ne]
      rintro rfl
      exact Bool.false_ne_true hb.symm
    rw [hsplit] at hc
    rw [splitChars_encodeChars] at hargs
    simp only [List.flatten_cons, List.count_append, List.count_cons, beq_self_eq_true, if_true,
      hspace, Bool.false_eq_true, if_false] at hc hle
    omega

theorem splitChars_pasted_iff {mark : Char} {more : List Char} (hq : mark ≠ '"') (hs : mark ≠ '\\')
    (hb : isBlank mark = false) (hself : encodeArg (mark :: more) = mark :: more)
    (path : List Char) (argv : List (List Char)) :
    splitChars ('"' :: (path ++ '"' :: ' ' :: (mark :: more ++ ' ' :: encodeChars argv))) =
        path :: (mark :: more) :: argv ↔
      '"' ∉ path ∧ path.getLast? ≠ some '\\' := by
  rw [splitChars_cons (by decide), List.cons.injEq,
    ← word_pasted_iff path (atBoundary_space _) (List.cons_ne_nil _ _), word_quote]
  constructor
  · rintro ⟨hpath, hrest⟩
    refine Prod.ext hpath ?_
    have hne : (word true
        (path ++ '"' :: ' ' :: (mark :: more ++ ' ' :: encodeChars argv))).2 ≠ [] := by
      intro he
      rw [he, splitChars_nil] at hrest
      exact List.cons_ne_nil _ _ hrest.symm
    -- the path has taken up all characters but the closing quote, so the rest is no longer than this
    have hl := length_word_add_count_le hne
    rw [hpath] at hl
    simp only [Bool.toNat_true, List.length_append, List.length_cons] at hl
    apply eq_of_suffix_of_splitChars hq hs hb (atBoundary_word_rest _ _) hrest
    apply List.suffix_of_suffix_length_le (word_rest_suffix _ _)
    · exact (List.suffix_cons '"' _).trans (List.suffix_append path _)
    · simp only [List.length_append, List.length_cons]
      omega
  · intro hw
    rw [hw]
    exact ⟨rfl, splitChars_flag hself argv⟩

end CommandLine

theorem childExecTarget?_cons_cons {α : Type} [DecidableEq α] (name flag : α) {argv : List α}
    (h : argv ≠ []) : childExecTarget? flag (name :: flag :: argv) = some argv := by
  simp [childExecTarget?, h]

namespace Launch

namespace Command

-- The words that a session makes of the launched command line.
def sessionArguments (c : Command) : List String :=
  CommandLine.split (WideString.ofString c.sessionCommandLine).toStringLossy

theorem sessionArguments_eq_split (c : Command) :
    c.sessionArguments = CommandLine.split c.sessionCommandLine := by
  rw [sessionArguments, WideString.toStringLossy_ofString]

theorem toList_sessionCommandLine (c : Command) :
    c.sessionCommandLine.toList =
      '"' :: ((Utf8.decodeLossy c.selfPath).toList ++ '"' :: ' ' ::
        (childExecFlag.toList ++ ' ' :: CommandLine.encodeChars (c.argv.map String.toList))) := by
  simp [sessionCommandLine, childCommandLine, CommandLine.encode]

theorem sessionArguments_ne_nil (c : Command) : c.sessionArguments ≠ [] := by
  rw [sessionArguments_eq_split, Ne, CommandLine.split_eq_iff, toList_sessionCommandLine,
    CommandLine.splitChars_cons (by decide)]
  exact List.cons_ne_nil _ _

end Command

-- A session that has its terminal's slave starts these words and nothing else.
theorem launch_spawn (start : EnvironmentChanges → List String → Except SpawnError Unix.Behaviour)
    (c : Command) {s : PtySession} (hs : s.slaveHeld = true) :
    (launch c (PtySession.spawn start) s).1 =
      match start s.environment c.sessionArguments with
      | .ok _ => .ok ()
      | .error reason => .error (.spawn c.childCommandLine reason) := by
  have hne := c.sessionArguments_ne_nil
  simp only [Command.sessionArguments] at hne ⊢
  simp only [launch, PtySession.spawn, hs, Bool.not_true, Bool.false_eq_true, if_false]
  cases hsplit : CommandLine.split (WideString.ofString c.sessionCommandLine).toStringLossy with
  | nil => exact False.elim (hne hsplit)
  | cons name words => cases start s.environment (name :: words) <;> rfl

-- The second instance runs the user's words exactly when the path needs no escaping, whatever the words
-- are: also when they hold the flag, options or quotes.
theorem sessionArguments_eq_iff (c : Command) :
    (c.sessionArguments = [Utf8.decodeLossy c.selfPath, childExecFlag] ++ c.argv ↔
      '"' ∉ (Utf8.decodeLossy c.selfPath).toList ∧
        (Utf8.decodeLossy c.selfPath).toList.getLast? ≠ some '\\') ∧
    (c.sessionArguments = [Utf8.decodeLossy c.selfPath, childExecFlag] ++ c.argv → c.argv ≠ [] →
      childExecTarget? childExecFlag c.sessionArguments = some c.argv ∧
      childExecTarget? (Utf8.encode childExecFlag) (c.sessionArguments.map Utf8.encode) =
        some (c.argv.map Utf8.encode)) := by
  constructor
  · rw [Command.sessionArguments_eq_split, CommandLine.split_eq_iff, Command.toList_sessionCommandLine]
    exact CommandLine.splitChars_pasted_iff (by decide) (by decide) (by decide) (by decide) _ _
  · intro h hne
    rw [h]
    constructor
    · exact childExecTarget?_cons_cons _ _ hne
    · exact childExecTarget?_cons_cons _ _ (by simpa using hne)

-- The flag, quotes and an empty word among the user's words, and a blank in the path.
theorem sessionArguments_of_flag_among_words :
    let c : Command := ⟨[0x2F, 0x6F, 0x70, 0x74, 0x20, 0x61], ["--child-exec", "say \"hi\"", ""]⟩
    c.sessionArguments = ["/opt a", "--child-exec", "--child-exec", "say \"hi\"", ""] ∧
      childExecTarget? childExecFlag c.sessionArguments =
        some ["--child-exec", "say \"hi\"", ""] := by
  intro c
  have hpath : Utf8.decodeLossy c.selfPath = "/opt a" := by decide +kernel
  have h := sessionArguments_eq_iff c
  have hsplit := h.1.mpr (by rw [hpath]; decide)
  refine ⟨?_, (h.2 hsplit (List.cons_ne_nil _ _)).1⟩
  rw [hsplit, hpath]
  rfl

end Launch

end TermBridge
