import Mathlib.Data.List.ReduceOption
import TermBridge.Proofs.EventLoop.Iterations

namespace TermBridge.EventLoop

-- What is known of the size before the query with number `k`, counted from zero: the last known answer
-- before it, or else the opening size.
def knownBefore (opening : TerminalSize) (answers : List (Option TerminalSize)) (k : Nat) : TerminalSize :=
  (answers.take k).reduceOption.getLastD opening

-- The request that this query leads to, if it leads to one.
def requestAt? (opening : TerminalSize) (answers : List (Option TerminalSize)) (k : Nat) :
    Option TerminalSize :=
  change? (knownBefore opening answers k) answers[k]?.join

-- What the first `n` queries do to the outside.
def sizings (opening : TerminalSize) (answers : List (Option TerminalSize)) (n : Nat) : List LoopEvent :=
  (List.range n).flatMap fun k => .querySize :: (requestAt? opening answers k).toList.map .setSize

-- Whether the session refuses what this query asks of it.
def refusedAt (steps : List Step) (k : Nat) : Bool :=
  steps[k]?.any Step.refuse

-- The size that the session has before this query: that of the last request that it has not refused, or
-- else the opening size.
def acceptedBefore (opening : TerminalSize) (steps : List Step) (k : Nat) : TerminalSize :=
  ((List.range k).filterMap fun i =>
    if refusedAt steps i then none else requestAt? opening (steps.map Step.size) i).getLastD opening

theorem getLastD_append_toList {α : Type} (l : List α) (o : Option α) (last : α) :
    (l ++ o.toList).getLastD last = o.getD (l.getLastD last) := by
  cases o with
  | none => rw [Option.toList_none, List.append_nil]; rfl
  | some a => rw [Option.toList_some, List.getLastD_concat]; rfl

theorem filterMap_singleton {α β : Type} (f : α → Option β) (a : α) : [a].filterMap f = (f a).toList := by
  cases h : f a <;> simp [h]

theorem reduceOption_take_succ (answers : List (Option TerminalSize)) (k : Nat) :
    (answers.take (k + 1)).reduceOption = (answers.take k).reduceOption ++ answers[k]?.join.toList := by
  rw [List.take_add_one, List.reduceOption_append]
  cases answers[k]? with
  | none => rfl
  | some answer => rw [Option.toList_some, List.reduceOption_singleton]; rfl

theorem knownBefore_succ (opening : TerminalSize) (answers : List (Option TerminalSize)) (k : Nat) :
    knownBefore opening answers (k + 1) = answers[k]?.join.getD (knownBefore opening answers k) := by
  rw [knownBefore, reduceOption_take_succ, getLastD_append_toList]
  rfl

theorem sizings_succ (opening : TerminalSize) (answers : List (Option TerminalSize)) (k : Nat) :
    sizings opening answers (k + 1) =
      sizings opening answers k ++ sizing (knownBefore opening answers k) answers[k]?.join := by
  rw [sizings, List.range_succ, List.flatMap_append, List.flatMap_singleton]
  rfl

theorem acceptedBefore_succ (opening : TerminalSize) (steps : List Step) (k : Nat) :
    acceptedBefore opening steps (k + 1) =
      if refusedAt steps k then acceptedBefore opening steps k
      else (requestAt? opening (steps.map Step.size) k).getD (acceptedBefore opening steps k) := by
  rw [acceptedBefore, List.range_succ, List.filterMap_append, filterMap_singleton, getLastD_append_toList]
  cases refusedAt steps k <;> simp [acceptedBefore]

-- What the loop and the session know after so many queries, and what has been logged.
theorem reachedBy_take (s : State) (steps : List Step) {k : Nat} (hk : k ≤ (iterations s steps).length)
    (hopening : s.sessionSize = s.size) :
    let reached := reachedBy s ((iterations s steps).take k)
    reached.size = knownBefore s.size (steps.map Step.size) k ∧
      reached.sessionSize = acceptedBefore s.size steps k ∧
      reached.log = s.log ++ sizings s.size (steps.map Step.size) k := by
  induction k with
  | zero => exact ⟨rfl, hopening, (List.append_nil _).symm⟩
  | succ k ih =>
    obtain ⟨hsize, hsession, hlog⟩ := ih (by omega)
    have hit : (iterations s steps)[k]? = some (iterations s steps)[k] := List.getElem?_eq_getElem (by omega)
    obtain ⟨hstep, hpassed, hasleep⟩ := iterations_getElem? hit
    obtain ⟨plan, -, hafter⟩ := Iteration.after_eq _ hpassed
    have hanswer : (steps.map Step.size)[k]?.join = (iterations s steps)[k].step.size := by
      rw [List.getElem?_map, hstep]
      rfl
    have hrefused : refusedAt steps k = (iterations s steps)[k].step.refuse := by
      rw [refusedAt, hstep]
      rfl
    rw [List.take_add_one, hit, Option.toList_some, reachedBy_concat, hafter, hasleep, knownBefore_succ,
      sizings_succ, acceptedBefore_succ, requestAt?, hanswer, hrefused]
    simp [hsize, hsession, hlog]

-- What a run has logged at the end of its rounds, and the size that the session has then.
theorem running_sizes (script : Script) :
    (running script.start script.steps).2.log =
        sizings script.opening (script.answered.map Step.size) script.queries ∧
      (running script.start script.steps).2.sessionSize =
        acceptedBefore script.opening script.answered script.queries := by
  have hlength : script.queries = script.iterations.length := script.length_iterations.symm
  obtain ⟨plan, wakeup, hreached⟩ := running_eq_reachedBy script.start script.steps
  obtain ⟨-, hsession, hlog⟩ :=
    reachedBy_take script.start script.answered (Nat.le_refl script.iterations.length) rfl
  rw [Script.iterations, List.take_length] at hsession hlog
  rw [hreached, hlength]
  exact ⟨hlog, hsession⟩

namespace Script

variable (script : Script) (restored : Except RestoreError Unit)

theorem log_run :
    (run script restored).2 =
      sizings script.opening (script.answered.map Step.size) script.queries ++ script.teardown restored := by
  rw [run_eq, (running_sizes script).1]

theorem not_sizing_of_teardown {event : LoopEvent} (h : event ∈ script.teardown restored) :
    ¬ State.Sizing event := by
  rintro (rfl | ⟨size, rfl⟩) <;> unfold teardown at h <;> split at h <;> simp at h

end Script

theorem count_sizings (opening : TerminalSize) (answers : List (Option TerminalSize)) (n : Nat) :
    (sizings opening answers n).count .querySize = n := by
  have hone : ∀ request : Option TerminalSize,
      (LoopEvent.querySize :: request.toList.map .setSize).count .querySize = 1 := by
    intro request
    cases request <;> rfl
  simp [sizings, List.count_flatMap, Function.comp_def, hone]

theorem Script.count_queries (script : Script) (restored : Except RestoreError Unit) :
    (run script restored).2.count .querySize = script.queries := by
  have hnone : (script.teardown restored).count .querySize = 0 :=
    List.count_eq_zero.mpr fun h => script.not_sizing_of_teardown restored h (.inl rfl)
  rw [script.log_run, List.count_append, count_sizings, hnone, Nat.add_zero]

theorem rounds_congr {steps others : List Step} (h : others.map Step.done = steps.map Step.done)
    (present completed : List WorkerName) :
    rounds present completed others = rounds present completed steps := by
  have hlength : others.length = steps.length := by simpa using congrArg List.length h
  simp only [rounds, List.flatMap_def, List.map_take, h, hlength]

theorem map_mapIdx_of_forall {α β : Type} {f : Nat → α → α} {g : α → β} (h : ∀ i a, g (f i a) = g a)
    (l : List α) : (l.mapIdx f).map g = l.map g := by
  apply List.ext_getElem?
  intro i
  simp [Function.comp_def, h]

-- What the session refuses is seen by the session alone.
theorem run_refusals (script : Script) (refusals : Nat → Bool) (restored : Except RestoreError Unit) :
    run { script with steps := script.steps.mapIdx fun k step => { step with refuse := refusals k } }
      restored = run script restored := by
  let refusing : Nat → Step → Step := fun k step => { step with refuse := refusals k }
  let changed : Script := { script with steps := script.steps.mapIdx refusing }
  have hsizes : changed.steps.map Step.size = script.steps.map Step.size :=
    map_mapIdx_of_forall (f := refusing) (fun _ _ => rfl) script.steps
  have hdone : changed.steps.map Step.done = script.steps.map Step.done :=
    map_mapIdx_of_forall (f := refusing) (fun _ _ => rfl) script.steps
  have hrounds : changed.rounds = script.rounds := rounds_congr hdone script.present script.done
  have hfailure : changed.waitFailure = script.waitFailure :=
    congrArg script.pollPlan.settled.firstFailure hrounds
  have hqueries : changed.queries = script.queries := congrArg script.pollPlan.settled.passing hrounds
  have hanswers : changed.answered.map Step.size = script.answered.map Step.size := by
    rw [Script.answered, Script.answered, List.map_append, List.map_append, hsizes]
  have hanswer : changed.answer restored = script.answer restored := by
    unfold Script.answer
    rw [hfailure]
  have hteardown : changed.teardown restored = script.teardown restored := by
    unfold Script.teardown
    rw [hfailure]
    rfl
  apply Prod.ext
  · calc
      (run changed restored).1 = changed.answer restored := by rw [run_eq]
      _ = (run script restored).1 := by rw [hanswer, run_eq]
  · calc
      (run changed restored).2 =
          sizings changed.opening (changed.answered.map Step.size) changed.queries ++
            changed.teardown restored := changed.log_run restored
      _ = (run script restored).2 := by rw [hanswers, hqueries, hteardown, script.log_run]

-- The size that an event asks for, if it asks for one.
def requested? : LoopEvent → Option TerminalSize
  | .setSize size => some size
  | _ => none

-- The elements of a list that differ from the element before them.
def changes (sizes : List TerminalSize) : List TerminalSize :=
  ((sizes.zip sizes.tail).filter fun pair => pair.1 ≠ pair.2).map Prod.snd

theorem changes_cons_cons (first second : TerminalSize) (rest : List TerminalSize) :
    changes (first :: second :: rest) =
      if first = second then changes (second :: rest) else second :: changes (second :: rest) := by
  by_cases h : first = second <;> simp [changes, h]

theorem changes_concat (first : TerminalSize) (sizes : List TerminalSize) (last : TerminalSize) :
    changes (first :: (sizes ++ [last])) =
      changes (first :: sizes) ++ (change? (sizes.getLastD first) (some last)).toList := by
  induction sizes generalizing first with
  | nil => by_cases h : first = last <;> simp [changes, change?_some, h, Ne.symm]
  | cons second rest ih =>
    rw [List.cons_append, changes_cons_cons, changes_cons_cons, ih, List.getLastD_cons]
    split <;> rfl

theorem isChain_changes (first : TerminalSize) (rest : List TerminalSize) :
    (first :: changes (first :: rest)).IsChain (· ≠ ·) := by
  induction rest generalizing first with
  | nil => exact .singleton first
  | cons second rest ih =>
    rw [changes_cons_cons]
    split
    next h => exact h ▸ ih second
    next h => exact .cons_cons h (ih second)

theorem getLastD_changes (first : TerminalSize) (rest : List TerminalSize) :
    (changes (first :: rest)).getLastD first = rest.getLastD first := by
  induction rest generalizing first with
  | nil => rfl
  | cons second rest ih =>
    rw [changes_cons_cons, List.getLastD_cons, ← ih second]
    split
    next h => rw [h]
    next => rw [List.getLastD_cons]

theorem requests_sizing (known : TerminalSize) (answer : Option TerminalSize) :
    (sizing known answer).filterMap requested? = (change? known answer).toList := by
  cases h : change? known answer <;> simp [sizing, List.filterMap_cons, requested?, h]

theorem requests_sizings (opening : TerminalSize) (answers : List (Option TerminalSize)) (n : Nat) :
    (sizings opening answers n).filterMap requested? = changes (opening :: (answers.take n).reduceOption) := by
  induction n with
  | zero => rfl
  | succ n ih =>
    rw [sizings_succ, List.filterMap_append, ih, requests_sizing, reduceOption_take_succ]
    cases answers[n]?.join with
    | none => rw [change?_none, Option.toList_none, List.append_nil, List.append_nil]
    | some size => rw [Option.toList_some, changes_concat]; rfl

-- The requests of a run are the change points of the sizes that are known: of the opening size and the known
-- answers of the queries made. Each stands behind its own query and before the next one. Unknown answers and
-- refusals take no part in this.
theorem run_requests_changes (script : Script) (restored : Except RestoreError Unit) :
    let log := (run script restored).2
    let answers := (script.steps ++ [Step.last]).map Step.size
    let queries := log.count .querySize
    let known := (answers.take queries).reduceOption
    let requests := log.filterMap requested?
    queries ≤ answers.length ∧
    (∃ teardown, (∀ event ∈ teardown, ¬ State.Sizing event) ∧
      log = ((List.range queries).flatMap fun k =>
        .querySize :: (requestAt? script.opening answers k).toList.map .setSize) ++ teardown) ∧
    requests = changes (script.opening :: known) ∧
    (script.opening :: requests).IsChain (· ≠ ·) ∧
    requests.getLastD script.opening = known.getLastD script.opening ∧
    ∀ refusals : Nat → Bool,
      run { script with steps := script.steps.mapIdx fun k step => { step with refuse := refusals k } }
        restored = run script restored := by
  intro log answers queries known requests
  have hqueries : queries = script.queries := script.count_queries restored
  have hlog : log = sizings script.opening answers queries ++ script.teardown restored := by
    rw [hqueries]
    exact script.log_run restored
  have hrequests : requests = changes (script.opening :: known) := by
    have hnone : (script.teardown restored).filterMap requested? = [] := by
      rw [List.filterMap_eq_nil_iff]
      intro event hevent
      cases event with
      | setSize size => exact absurd (.inr ⟨size, rfl⟩) (script.not_sizing_of_teardown restored hevent)
      | _ => rfl
    simp only [requests]
    rw [hlog, List.filterMap_append, requests_sizings, hnone, List.append_nil]
  refine ⟨?_, ⟨script.teardown restored, fun _ => script.not_sizing_of_teardown restored, hlog⟩,
    hrequests, ?_, ?_, ?_⟩
  · rw [hqueries, ← script.length_iterations, List.length_map]
    exact length_iterations_le script.start script.answered
  · rw [hrequests]
    exact isChain_changes _ _
  · rw [hrequests]
    exact getLastD_changes _ _
  · intro refusals
    exact run_refusals script refusals restored

theorem knownBefore_succ_of_request (opening : TerminalSize) (answers : List (Option TerminalSize)) (k : Nat) :
    knownBefore opening answers (k + 1) =
      (requestAt? opening answers k).getD (knownBefore opening answers k) := by
  rw [knownBefore_succ, requestAt?, getD_change?]

-- Whether each refused request before this query is followed by another one before it.
def Superseded (opening : TerminalSize) (steps : List Step) (k : Nat) : Prop :=
  ∀ i < k, refusedAt steps i = true → (requestAt? opening (steps.map Step.size) i).isSome →
    ∃ j, i < j ∧ j < k ∧ (requestAt? opening (steps.map Step.size) j).isSome

-- The last request is not a refused one then, and so the session has what the loop knows.
theorem acceptedBefore_eq_knownBefore {opening : TerminalSize} {steps : List Step} {k : Nat}
    (h : Superseded opening steps k) :
    acceptedBefore opening steps k = knownBefore opening (steps.map Step.size) k := by
  induction k with
  | zero => rfl
  | succ k ih =>
    rw [acceptedBefore_succ, knownBefore_succ_of_request]
    cases hrequest : requestAt? opening (steps.map Step.size) k with
    | none =>
      have hbefore : Superseded opening steps k := by
        intro i hi hrefused hrequested
        obtain ⟨j, hij, hj, hsome⟩ := h i (by omega) hrefused hrequested
        have hne : j ≠ k := by
          rintro rfl
          simp [hrequest] at hsome
        exact ⟨j, hij, by omega, hsome⟩
      rw [Option.getD_none, Option.getD_none, ih hbefore, ite_self]
    | some size =>
      have haccepted : refusedAt steps k = false := by
        cases hrefused : refusedAt steps k with
        | false => rfl
        | true =>
          obtain ⟨j, hkj, hj, -⟩ := h k (by omega) hrefused (by simp [hrequest])
          omega
      rw [haccepted, if_neg Bool.false_ne_true, Option.getD_some, Option.getD_some]

-- The loop compares an answer with what it knows and not with what the session has. An answer that repeats
-- a refused size is therefore not handed on, and the session keeps its older size until another one is
-- asked for.
theorem session_size_of_accepting {script : Script} {k : Nat} {it : Iteration}
    (hit : script.iterations[k]? = some it) {size : TerminalSize} (hsize : it.step.size = some size)
    (haccepts : it.step.refuse = false) :
    let accepted := acceptedBefore script.opening script.answered
    let known := knownBefore script.opening (script.answered.map Step.size)
    it.after.sessionSize = accepted (k + 1) ∧
      (it.after.sessionSize = size ↔ size ≠ known k ∨ accepted k = size) ∧
      (Superseded script.opening script.answered k → it.after.sessionSize = size) := by
  intro accepted known
  obtain ⟨hstep, -, -⟩ := iterations_getElem? hit
  have hreached : reachedBy script.start (script.iterations.take (k + 1)) = it.after := by
    rw [List.take_add_one, hit, Option.toList_some, reachedBy_concat]
  have hk : k < script.iterations.length := (List.getElem?_eq_some_iff.mp hit).1
  have hsession : it.after.sessionSize = accepted (k + 1) := by
    rw [← hreached]
    exact (reachedBy_take script.start script.answered hk rfl).2.1
  have hlast : accepted (k + 1) = (change? (known k) (some size)).getD (accepted k) := by
    simp only [accepted, known]
    rw [acceptedBefore_succ, requestAt?, refusedAt, List.getElem?_map, hstep]
    simp [haccepts, hsize]
  have hiff : it.after.sessionSize = size ↔ size ≠ known k ∨ accepted k = size := by
    rw [hsession, hlast, change?_some]
    by_cases hknown : size = known k <;> simp [hknown]
  refine ⟨hsession, hiff, fun hsuperseded => hiff.mpr ?_⟩
  rw [or_iff_not_imp_left, not_not]
  intro hknown
  rw [hknown]
  exact acceptedBefore_eq_knownBefore hsuperseded

-- A later request makes up for a refused one.
theorem session_size_of_later_request :
    let steps : List Step :=
      [{ size := some ⟨100, 30⟩, refuse := true }, { size := some ⟨90, 20⟩ },
        { size := some ⟨90, 20⟩, done := [.input] }]
    let script : Script := { steps }
    ∃ it, script.iterations[2]? = some it ∧ it.step.size = some ⟨90, 20⟩ ∧ it.step.refuse = false ∧
      Superseded script.opening script.answered 2 ∧ it.after.sessionSize = ⟨90, 20⟩ := by
  intro steps script
  have hsuperseded : Superseded script.opening script.answered 2 := by
    rintro (_ | _ | i) hi hrefused -
    · exact ⟨1, by decide, by decide, by decide⟩
    · exact absurd hrefused (by decide)
    · omega
  have hit : script.iterations[2]? = some ⟨_, _⟩ := rfl
  exact ⟨_, hit, rfl, rfl, hsuperseded, (session_size_of_accepting hit rfl rfl).2.2 hsuperseded⟩

-- The session accepts again when the answer is repeated, and is not asked.
theorem session_size_left_behind :
    ¬ ∀ (script : Script) (k : Nat) (it : Iteration) (size : TerminalSize),
      script.iterations[k]? = some it → it.step.size = some size → it.step.refuse = false →
        it.after.sessionSize = size := by
  intro h
  let steps : List Step :=
    [{ size := some ⟨100, 30⟩, refuse := true }, { size := some ⟨100, 30⟩, done := [.input] }]
  have hfollows := h { steps } 1 _ ⟨100, 30⟩ rfl rfl rfl
  exact absurd hfollows (by decide)

end TermBridge.EventLoop
