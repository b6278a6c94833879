import Mathlib.Data.List.TakeWhile
import TermBridge.Launch
import TermBridge.Options

namespace TermBridge

namespace Switches

-- The options that turn on a switch and let the reading go on.
def options : List String :=
  ["--mouse", "--showkey", "-Xallow-non-tty", "-Xconerr", "-Xplain", "-Xcolor"]

-- The switches when more options have been given.
def add (s : Switches) (given : List String) : Switches where
  mouse := s.mouse || decide ("--mouse" ∈ given)
  showKeys := s.showKeys || decide ("--showkey" ∈ given)
  allowNonTtys := s.allowNonTtys || decide ("-Xallow-non-tty" ∈ given)
  separateErrors := s.separateErrors || decide ("-Xconerr" ∈ given)
  plainOutput := s.plainOutput || decide ("-Xplain" ∈ given)
  colorEscapes := s.colorEscapes || decide ("-Xcolor" ∈ given)

theorem add_nil (s : Switches) : s.add [] = s := by
  simp [add]

theorem add_add (s : Switches) (first second : List String) :
    (s.add first).add second = s.add (first ++ second) := by
  simp [add, Bool.or_assoc]

theorem add_congr (s : Switches) {given given' : List String}
    (h : ∀ word, word ∈ given' ↔ word ∈ given) : s.add given' = s.add given := by
  simp [add, h]

theorem turnOn?_of_mem (s : Switches) {word : String} (h : word ∈ options) :
    s.turnOn? word = some (s.add [word]) := by
  simp only [options, List.mem_cons, List.not_mem_nil, or_false] at h
  rcases h with rfl | rfl | rfl | rfl | rfl | rfl <;> simp [turnOn?, add]

theorem turnOn?_of_not_mem (s : Switches) {word : String} (h : word ∉ options) :
    s.turnOn? word = none := by
  unfold turnOn?
  split <;> simp_all [options]

-- Each switch is on if its option is among those given, and only then.
structure Given (s : Switches) (given : List String) : Prop where
  mouse : s.mouse = true ↔ "--mouse" ∈ given
  showKeys : s.showKeys = true ↔ "--showkey" ∈ given
  allowNonTtys : s.allowNonTtys = true ↔ "-Xallow-non-tty" ∈ given
  separateErrors : s.separateErrors = true ↔ "-Xconerr" ∈ given
  plainOutput : s.plainOutput = true ↔ "-Xplain" ∈ given
  colorEscapes : s.colorEscapes = true ↔ "-Xcolor" ∈ given

theorem given_add (given : List String) : (({} : Switches).add given).Given given := by
  constructor <;> simp [add]

theorem Given.eq_add {s : Switches} {given : List String} (h : s.Given given) :
    s = ({} : Switches).add given := by
  have hg := given_add given
  obtain ⟨mouse, showKeys, allowNonTtys, separateErrors, plainOutput, colorEscapes⟩ := s
  simp only [add, Switches.mk.injEq]
  refine ⟨?_, ?_, ?_, ?_, ?_, ?_⟩ <;> rw [Bool.eq_iff_iff]
  · exact h.mouse.trans hg.mouse.symm
  · exact h.showKeys.trans hg.showKeys.symm
  · exact h.allowNonTtys.trans hg.allowNonTtys.symm
  · exact h.separateErrors.trans hg.separateErrors.symm
  · exact h.plainOutput.trans hg.plainOutput.symm
  · exact h.colorEscapes.trans hg.colorEscapes.symm

end Switches

namespace Request

variable {words given rest : List String}

-- The words as switches, the longest front that holds nothing else, and the rest.
structure Reads (words given rest : List String) : Prop where
  words_eq : words = given ++ rest
  options : ∀ word ∈ given, word ∈ Switches.options
  longest : ∀ front, front <+: words → (∀ word ∈ front, word ∈ Switches.options) →
    front.length ≤ given.length

theorem Reads.head_not_mem (h : Reads words given rest) :
    ∀ word ∈ rest.head?, word ∉ Switches.options := by
  intro word hword hoption
  obtain ⟨more, rfl⟩ : ∃ more, rest = word :: more := List.head?_eq_some_iff.mp hword
  have hfront : given ++ [word] <+: words := by
    rw [h.words_eq, List.append_cons given word more]
    exact List.prefix_append _ more
  have hlength := h.longest (given ++ [word]) hfront fun other hother => by
    rcases List.mem_append.mp hother with hmem | hmem
    · exact h.options other hmem
    · rwa [List.mem_singleton.mp hmem]
  rw [List.length_append, List.length_singleton] at hlength
  omega

theorem reads_of_head_not_mem (options : ∀ word ∈ given, word ∈ Switches.options)
    (head : ∀ word ∈ rest.head?, word ∉ Switches.options) :
    Reads (given ++ rest) given rest where
  words_eq := rfl
  options := options
  longest front hfront hoptions := by
    rcases List.prefix_or_prefix_of_prefix hfront (List.prefix_append given rest) with hle | ⟨more, rfl⟩
    · exact hle.length_le
    · rw [List.prefix_append_right_inj] at hfront
      cases more with
      | nil => simp
      | cons word more =>
        obtain ⟨tail, rfl⟩ := hfront
        exact False.elim (head word rfl (hoptions word (by simp)))

theorem exists_reads (words : List String) : ∃ given rest, Reads words given rest := by
  refine ⟨words.takeWhile (· ∈ Switches.options), words.dropWhile (· ∈ Switches.options), ?_⟩
  have hgiven : ∀ word ∈ words.takeWhile (· ∈ Switches.options), word ∈ Switches.options :=
    fun word hword => by simpa using List.mem_takeWhile_imp hword
  have hrest : ∀ word ∈ (words.dropWhile (· ∈ Switches.options)).head?, word ∉ Switches.options := by
    intro word hword
    have hnot := List.head?_dropWhile_not (fun word => decide (word ∈ Switches.options)) words
    rw [Option.mem_def.mp hword] at hnot
    simpa using hnot
  have hreads := reads_of_head_not_mem hgiven hrest
  rwa [List.takeWhile_append_dropWhile] at hreads

theorem Reads.unique {given' rest' : List String} (h : Reads words given rest)
    (h' : Reads words given' rest') : given' = given ∧ rest' = rest := by
  have hlength : given'.length = given.length := by
    have hle := h.longest given' (h'.words_eq ▸ List.prefix_append given' rest') h'.options
    have hge := h'.longest given (h.words_eq ▸ List.prefix_append given rest) h.options
    omega
  exact List.append_inj (h'.words_eq.symm.trans h.words_eq) hlength

-- Switches only add up, so the reading comes to the rest with all of them.
theorem parseWith_append (s : Switches) (h : ∀ word ∈ given, word ∈ Switches.options)
    (rest : List String) : parseWith s (given ++ rest) = parseWith (s.add given) rest := by
  induction given generalizing s with
  | nil => rw [List.nil_append, s.add_nil]
  | cons word given ih =>
    have hword : word ∈ Switches.options := h word List.mem_cons_self
    have hstep : parseWith s (word :: (given ++ rest)) = parseWith (s.add [word]) (given ++ rest) := by
      have hplain : isOption word = true ∧ word ≠ "-h" ∧ word ≠ "--help" ∧ word ≠ "--version" ∧
          word ≠ "--" := by
        simp only [Switches.options, List.mem_cons, List.not_mem_nil, or_false] at hword
        rcases hword with rfl | rfl | rfl | rfl | rfl | rfl <;> decide
      simp [parseWith, hplain, s.turnOn?_of_mem hword]
    rw [List.cons_append, hstep, ih _ fun other hother => h other (List.mem_cons_of_mem _ hother),
      Switches.add_add]
    rfl

theorem Reads.parse_eq (h : Reads words given rest) :
    parse words = parseWith (({} : Switches).add given) rest := by
  rw [h.words_eq, parse, parseWith_append _ h.options]

-- A word that begins with a dash and is no option.
structure Unknown (word : String) : Prop where
  dash : word.toList.head? = some '-'
  separator : word ≠ "--"
  option : word ∉ Switches.options ++ ["-h", "--help", "--version"]

-- The child's words: the rest behind the dashes that end the options, if it begins with them.
def childWords (rest : List String) : List String :=
  if rest.head? = some "--" then rest.tail else rest

-- The rest leaves the decision to the switches and the child's words.
structure LeavesToChild (rest : List String) : Prop where
  help : rest.head? ≠ some "-h" ∧ rest.head? ≠ some "--help"
  version : rest.head? ≠ some "--version"
  known : ∀ word, rest.head? = some word → ¬Unknown word

-- The first word of the rest decides: it asks for help or for the version, it is refused, or the child's
-- words begin with it or behind it.
inductive Decision (rest : List String) (s : Switches) : Except OptionsError Request → Prop where
  | help (hhead : rest.head? = some "-h" ∨ rest.head? = some "--help") : Decision rest s (.ok .help)
  | version (hhead : rest.head? = some "--version") : Decision rest s (.ok .version)
  | unrecognized {word : String} (hhead : rest.head? = some word) (hword : Unknown word) :
    Decision rest s (.error (.unrecognized word))
  | child (hrest : LeavesToChild rest) : Decision rest s (ofSwitches s (childWords rest))

theorem decision_of_plain (s : Switches) {word : String} (more : List String)
    (h : isOption word = false) : Decision (word :: more) s (ofSwitches s (word :: more)) := by
  have hdash : word.toList.head? ≠ some '-' := by simpa [isOption] using h
  have hne : ∀ option : String, option.toList.head? = some '-' → word ≠ option := by
    rintro option hoption rfl
    exact hdash hoption
  have hrest : LeavesToChild (word :: more) := by
    refine ⟨⟨?_, ?_⟩, ?_, ?_⟩
    · simpa using hne "-h" (by decide)
    · simpa using hne "--help" (by decide)
    · simpa using hne "--version" (by decide)
    · rintro other hother hunknown
      rw [← Option.some.inj hother] at hunknown
      exact hdash hunknown.dash
  have hwords : childWords (word :: more) = word :: more := by
    simp [childWords, hne "--" (by decide)]
  simpa only [hwords] using Decision.child (s := s) hrest

theorem decision_parseWith (s : Switches) (h : ∀ word ∈ rest.head?, word ∉ Switches.options) :
    Decision rest s (parseWith s rest) := by
  cases rest with
  | nil => exact .child ⟨by simp, by simp, by simp⟩
  | cons word more =>
    rw [parseWith, s.turnOn?_of_not_mem (h word rfl)]
    cases hdash : isOption word with
    | false => simpa using decision_of_plain s more hdash
    | true =>
      by_cases hhelp : word = "-h" ∨ word = "--help"
      · have hhead : (word :: more).head? = some "-h" ∨ (word :: more).head? = some "--help" := by
          simpa using hhelp
        simpa [hhelp] using Decision.help (s := s) hhead
      by_cases hversion : word = "--version"
      · subst hversion
        have hhead : ("--version" :: more).head? = some "--version" := rfl
        simpa using Decision.version (s := s) hhead
      by_cases hend : word = "--"
      · subst hend
        have hknown : ¬Unknown "--" := fun hunknown => hunknown.separator rfl
        have hrest : LeavesToChild ("--" :: more) := ⟨by simp, by simp, by simpa using hknown⟩
        simpa [childWords] using Decision.child (s := s) hrest
      · have hunknown : Unknown word := by
          refine ⟨by simpa [isOption] using hdash, hend, ?_⟩
          simp only [not_or] at hhelp
          simp [h word rfl, hhelp, hversion]
        have hhead : (word :: more).head? = some word := rfl
        simpa [hhelp, hversion, hend] using Decision.unrecognized (s := s) hhead hunknown

theorem ofSwitches_ne (s : Switches) (childArgv : List String) :
    ofSwitches s childArgv ≠ .ok .help ∧ ofSwitches s childArgv ≠ .ok .version ∧
      ∀ word, ofSwitches s childArgv ≠ .error (.unrecognized word) := by
  unfold ofSwitches
  split
  · simp
  · split <;> simp

theorem Unknown.ne {word : String} (h : Unknown word) :
    word ≠ "-h" ∧ word ≠ "--help" ∧ word ≠ "--version" := by
  have hoption := h.option
  simp only [List.mem_append, List.mem_cons, List.not_mem_nil, or_false, not_or] at hoption
  exact hoption.2

-- The four cases exclude each other.
theorem Decision.iff {s : Switches} {answer : Except OptionsError Request}
    (h : Decision rest s answer) :
    (answer = .ok .help ↔ rest.head? = some "-h" ∨ rest.head? = some "--help") ∧
      (answer = .ok .version ↔ rest.head? = some "--version") ∧
      (∀ word, answer = .error (.unrecognized word) ↔ rest.head? = some word ∧ Unknown word) ∧
      (LeavesToChild rest → answer = ofSwitches s (childWords rest)) := by
  cases h with
  | help hhead =>
    refine ⟨by simpa using hhead, ?_, fun word => ?_, fun hchild => ?_⟩
    · rcases hhead with hhead | hhead <;> simp [hhead]
    · simp only [reduceCtorEq, false_iff, not_and]
      rintro hword hunknown
      rw [hword] at hhead
      rcases hhead with hhead | hhead
      · exact hunknown.ne.1 (Option.some.inj hhead)
      · exact hunknown.ne.2.1 (Option.some.inj hhead)
    · exact False.elim (hhead.elim hchild.help.1 hchild.help.2)
  | version hhead =>
    refine ⟨by simp [hhead], by simpa using hhead, fun word => ?_, fun hchild => ?_⟩
    · simp only [reduceCtorEq, false_iff, not_and]
      rintro hword hunknown
      rw [hword] at hhead
      exact hunknown.ne.2.2 (Option.some.inj hhead)
    · exact False.elim (hchild.version hhead)
  | @unrecognized word hhead hword =>
    refine ⟨by simp [hhead, hword.ne], by simp [hhead, hword.ne], fun other => ?_, fun hchild => ?_⟩
    · rw [hhead]
      constructor
      · rintro heq
        cases heq
        exact ⟨rfl, hword⟩
      · rintro ⟨heq, -⟩
        rw [Option.some.inj heq]
    · exact False.elim (hchild.known word hhead hword)
  | child hchild =>
    have hne := ofSwitches_ne s (childWords rest)
    refine ⟨?_, ?_, fun word => ?_, fun _ => rfl⟩
    · simp [hne, hchild.help]
    · simp [hne, hchild.version]
    · simpa [hne] using hchild.known word

-- What comes of a rest that leaves the decision to the switches and the child's words.
theorem ofSwitches_add_iff (given childArgv : List String) :
    let request := ofSwitches (({} : Switches).add given) childArgv
    (∀ allow, request = .ok (.showKeys allow) ↔
      "--showkey" ∈ given ∧ (allow = true ↔ "-Xallow-non-tty" ∈ given)) ∧
    (request = .error .missingProgram ↔ "--showkey" ∉ given ∧ childArgv = []) ∧
    ∀ o, request = .ok (.run o) ↔
      "--showkey" ∉ given ∧ childArgv ≠ [] ∧ o.childArgv = childArgv ∧ o.switches.Given given := by
  intro request
  have hgiven := Switches.given_add given
  by_cases hkeys : "--showkey" ∈ given
  · have hrequest : request = .ok (.showKeys (({} : Switches).add given).allowNonTtys) := by
      simp [request, ofSwitches, hgiven.showKeys.mpr hkeys]
    refine ⟨fun allow => ?_, by simp [hrequest, hkeys], by simp [hrequest, hkeys]⟩
    rw [hrequest, ← hgiven.allowNonTtys, ← Bool.eq_iff_iff]
    simp [hkeys, eq_comm]
  have hoff : (({} : Switches).add given).showKeys = false := by
    rw [← Bool.not_eq_true, hgiven.showKeys]
    exact hkeys
  by_cases hchild : childArgv = []
  · have hrequest : request = .error .missingProgram := by
      simp [request, ofSwitches, hoff, hchild]
    simp [hrequest, hkeys, hchild]
  · have hrequest : request = .ok (.run ⟨childArgv, ({} : Switches).add given⟩) := by
      simp [request, ofSwitches, hoff, hchild]
    refine ⟨by simp [hrequest, hkeys], by simp [hrequest, hchild], fun o => ?_⟩
    rw [hrequest]
    simp only [Except.ok.injEq, Request.run.injEq]
    constructor
    · rintro rfl
      exact ⟨hkeys, hchild, rfl, hgiven⟩
    · rintro ⟨-, -, hargv, hswitches⟩
      rw [← hargv, ← hswitches.eq_add]

theorem childExecTarget?_of_parse {request : Request} (h : parse words = .ok request) (name : String) :
    childExecTarget? Launch.childExecFlag (name :: words) = none := by
  cases words with
  | nil => rfl
  | cons word target =>
    have hword : word ≠ Launch.childExecFlag := by
      rintro rfl
      simp [parse, parseWith, isOption, Launch.childExecFlag, Switches.turnOn?] at h
    simp [childExecTarget?, hword]

-- There is one way to read the words as switches and a rest. The first word of the rest decides alone
-- whether the answer is help, the version or a refusal; where it leaves the decision, the switches stand
-- for the options that were given, in whatever order and however often, and the child's words are the
-- rest as it stands. Words that are accepted never ask to become another program.
theorem parse_accepts_grammar (words : List String) :
    ∃ given rest, Reads words given rest ∧
      (∀ given' rest', Reads words given' rest' → given' = given ∧ rest' = rest) ∧
      (parse words = .ok .help ↔ rest.head? = some "-h" ∨ rest.head? = some "--help") ∧
      (parse words = .ok .version ↔ rest.head? = some "--version") ∧
      (∀ word, parse words = .error (.unrecognized word) ↔ rest.head? = some word ∧ Unknown word) ∧
      (LeavesToChild rest →
        (∀ allow, parse words = .ok (.showKeys allow) ↔
          "--showkey" ∈ given ∧ (allow = true ↔ "-Xallow-non-tty" ∈ given)) ∧
        (parse words = .error .missingProgram ↔ "--showkey" ∉ given ∧ childWords rest = []) ∧
        ∀ o, parse words = .ok (.run o) ↔
          "--showkey" ∉ given ∧ childWords rest ≠ [] ∧ o.childArgv = childWords rest ∧
            o.switches.Given given) ∧
      (∀ given', (∀ word, word ∈ given' ↔ word ∈ given) → parse (given' ++ rest) = parse words) ∧
      ∀ request name, parse words = .ok request →
        childExecTarget? Launch.childExecFlag (name :: words) = none := by
  obtain ⟨given, rest, hreads⟩ := exists_reads words
  obtain ⟨hhelp, hversion, hunknown, hchild⟩ :=
    (decision_parseWith (({} : Switches).add given) hreads.head_not_mem).iff
  rw [← hreads.parse_eq] at hhelp hversion hunknown hchild
  refine ⟨given, rest, hreads, fun given' rest' => hreads.unique, hhelp, hversion, hunknown, ?_, ?_,
    fun request name h => childExecTarget?_of_parse h name⟩
  · intro hrest
    rw [hchild hrest]
    exact ofSwitches_add_iff given (childWords rest)
  · intro given' hsame
    have hoptions : ∀ word ∈ given', word ∈ Switches.options :=
      fun word hword => hreads.options word ((hsame word).mp hword)
    rw [hreads.parse_eq, parse, parseWith_append _ hoptions, Switches.add_congr _ hsame]

-- The second `--mouse` belongs to the child, since the dashes before it end the options.
example :
    parse ["-Xcolor", "--mouse", "-Xcolor", "--", "--mouse", "-x"] =
      .ok (.run ⟨["--mouse", "-x"], { mouse := true, colorEscapes := true }⟩) := by
  decide

end Request

end TermBridge
