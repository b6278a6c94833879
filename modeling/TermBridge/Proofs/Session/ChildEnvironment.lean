import Mathlib.Data.List.Basic
import Mathlib.Data.List.Induction
import TermBridge.Session.Spawn

namespace TermBridge

namespace Environment

variable {lookup : String → Option String} {names : List String} {name : String}

-- The entry that a name is copied as, if it has a value to copy.
def entryOf (lookup : String → Option String) (name : String) : Option (String × String) :=
  ((lookup name).filter (!·.isEmpty)).map fun value => (name, value)

def copies (lookup : String → Option String) (names : List String) : List (String × String) :=
  names.eraseDups.filterMap (entryOf lookup)

theorem entryOf_eq_some_iff {entry : String × String} :
    entryOf lookup name = some entry ↔
      entry.1 = name ∧ lookup entry.1 = some entry.2 ∧ entry.2 ≠ "" := by
  cases entry with
  | mk other value =>
    simp only [entryOf, Option.map_eq_some_iff, Option.filter_eq_some_iff, Prod.mk.injEq,
      exists_eq_right_right, Bool.not_eq_true', String.isEmpty_eq_false_iff, ne_eq]
    constructor
    · rintro ⟨⟨hvalue, hne⟩, rfl⟩
      exact ⟨rfl, hvalue, hne⟩
    · rintro ⟨rfl, hvalue, hne⟩
      exact ⟨⟨hvalue, hne⟩, rfl⟩

theorem mem_copies_iff {entry : String × String} :
    entry ∈ copies lookup names ↔
      entry.1 ∈ names ∧ lookup entry.1 = some entry.2 ∧ entry.2 ≠ "" := by
  simp only [copies, List.mem_filterMap, List.mem_eraseDups, entryOf_eq_some_iff]
  constructor
  · rintro ⟨name, hmem, rfl, hvalue⟩
    exact ⟨hmem, hvalue⟩
  · rintro ⟨hmem, hvalue⟩
    exact ⟨entry.1, hmem, rfl, hvalue⟩

theorem any_copies_iff :
    (copies lookup names).any (·.1 == name) = true ↔
      name ∈ names ∧ (entryOf lookup name).isSome = true := by
  simp only [List.any_eq_true, mem_copies_iff, beq_iff_eq, Option.isSome_iff_exists, entryOf_eq_some_iff]
  constructor
  · rintro ⟨entry, ⟨hmem, hvalue⟩, rfl⟩
    exact ⟨hmem, entry, rfl, hvalue⟩
  · rintro ⟨hmem, entry, rfl, hvalue⟩
    exact ⟨entry, ⟨hmem, hvalue⟩, rfl⟩

theorem eraseDups_concat (names : List String) (name : String) :
    (names ++ [name]).eraseDups = names.eraseDups ++ if name ∈ names then [] else [name] := by
  by_cases hmem : name ∈ names
  · simp [List.eraseDups_append, List.removeAll, hmem]
  · simp [List.eraseDups_append, List.removeAll, hmem, List.eraseDups_cons]

theorem copies_concat (lookup : String → Option String) (names : List String) (name : String) :
    copies lookup (names ++ [name]) =
      copies lookup names ++ if name ∈ names then [] else (entryOf lookup name).toList := by
  rw [copies, eraseDups_concat, List.filterMap_append]
  by_cases hmem : name ∈ names
  · simp [copies, hmem]
  · cases he : entryOf lookup name <;> simp [copies, hmem, he]

theorem addName_eq (set : List (String × String)) :
    addName lookup set name =
      set ++ if set.any (·.1 == name) then [] else (entryOf lookup name).toList := by
  unfold addName entryOf
  split
  · simp
  · cases (lookup name).filter (!·.isEmpty) <;> simp

-- A name that was looked up before without success is looked up again, and without success again.
theorem addName_copies (lookup : String → Option String) (names : List String) (name : String) :
    addName lookup (copies lookup names) name = copies lookup (names ++ [name]) := by
  rw [addName_eq, copies_concat]
  congr 1
  by_cases hmem : name ∈ names
  · cases he : entryOf lookup name with
    | none => simp
    | some entry =>
      have hany := any_copies_iff.mpr ⟨hmem, by rw [he]; rfl⟩
      rw [if_pos hany, if_pos hmem]
  · have hany : ¬(copies lookup names).any (·.1 == name) = true :=
      fun h => hmem (any_copies_iff.mp h).1
    rw [if_neg hany, if_neg hmem]

theorem foldl_addName (rest names : List String) :
    rest.foldl (addName lookup) (copies lookup names) = copies lookup (names ++ rest) := by
  induction rest generalizing names with
  | nil => simp
  | cons name rest ih => rw [List.foldl_cons, addName_copies, ih, List.append_assoc]; rfl

theorem set_changes (extra : List String) (clear : Bool) (lookup : String → Option String) :
    (changes extra clear lookup).set = copies lookup (diagnosticNames ++ extra) :=
  foldl_addName (diagnosticNames ++ extra) []

-- The order is that of the first occurrences.

theorem pairwise_eraseDups (names : List String) :
    names.eraseDups.Pairwise (names.idxOf · < names.idxOf ·) := by
  induction names using List.reverseRecOn with
  | nil => simp
  | append_singleton names name ih =>
    have hold : ∀ {first : String}, first ∈ names.eraseDups →
        (names ++ [name]).idxOf first = names.idxOf first :=
      fun h => List.idxOf_append_of_mem (List.mem_eraseDups.mp h)
    have hfront : names.eraseDups.Pairwise
        ((names ++ [name]).idxOf · < (names ++ [name]).idxOf ·) :=
      ih.imp_of_mem fun hfirst hsecond hlt => by rwa [hold hfirst, hold hsecond]
    rw [eraseDups_concat]
    by_cases hmem : name ∈ names
    · simpa [hmem] using hfront
    · rw [if_neg hmem, List.pairwise_append]
      refine ⟨hfront, List.pairwise_singleton _ _, fun first hfirst second hsecond => ?_⟩
      rw [List.mem_singleton.mp hsecond, hold hfirst, List.idxOf_append_of_notMem hmem]
      have hlt : names.idxOf first < names.length :=
        List.idxOf_lt_length_of_mem (List.mem_eraseDups.mp hfirst)
      omega

theorem map_fst_copies (lookup : String → Option String) (names : List String) :
    (copies lookup names).map (·.1) = names.eraseDups.filter fun name => (entryOf lookup name).isSome := by
  unfold copies
  induction names.eraseDups with
  | nil => rfl
  | cons name rest ih =>
    cases he : entryOf lookup name with
    | none => simp [he, ih]
    | some entry =>
      have hname : entry.1 = name := (entryOf_eq_some_iff.mp he).1
      simp [he, ih, hname]

theorem pairwise_copies (lookup : String → Option String) (names : List String) :
    ((copies lookup names).map (·.1)).Pairwise (names.idxOf · < names.idxOf ·) := by
  rw [map_fst_copies]
  exact (pairwise_eraseDups names).filter _

-- What the changes make of an environment.

-- A name has a value to copy if the lookup finds one that is not empty.
def Copyable (lookup : String → Option String) (name : String) : Prop :=
  lookup name ≠ none ∧ lookup name ≠ some ""

instance (lookup : String → Option String) (name : String) : Decidable (Copyable lookup name) :=
  inferInstanceAs (Decidable (_ ∧ _))

theorem entryOf_of_copyable (h : Copyable lookup name) :
    ∃ value, lookup name = some value ∧ entryOf lookup name = some (name, value) := by
  obtain ⟨value, hvalue⟩ := Option.ne_none_iff_exists'.mp h.1
  have hne : value ≠ "" := by
    rintro rfl
    exact h.2 hvalue
  exact ⟨value, hvalue, entryOf_eq_some_iff.mpr ⟨rfl, hvalue, hne⟩⟩

theorem entryOf_of_not_copyable (h : ¬Copyable lookup name) : entryOf lookup name = none := by
  rw [Option.eq_none_iff_forall_ne_some]
  intro entry he
  obtain ⟨rfl, hvalue, hne⟩ := entryOf_eq_some_iff.mp he
  exact h ⟨by simp [hvalue], by simp [hvalue, hne]⟩

-- All entries for one name have the same value, so it does not matter which of them is assigned last.
theorem foldl_assign (lookup : String → Option String) (names : List String) (vars : Vars) (name : String) :
    ((names.filterMap (entryOf lookup)).foldl (fun vars entry => assign vars entry.1 entry.2) vars) name =
      if name ∈ names ∧ Copyable lookup name then lookup name else vars name := by
  induction names generalizing vars with
  | nil => simp
  | cons first rest ih =>
    by_cases hc : Copyable lookup first
    · obtain ⟨value, hvalue, he⟩ := entryOf_of_copyable hc
      rw [List.filterMap_cons_some he, List.foldl_cons, ih]
      by_cases hname : name = first
      · simp [hname, hc, hvalue, assign]
      · simp [hname, assign]
    · rw [List.filterMap_cons_none (entryOf_of_not_copyable hc), ih]
      by_cases hname : name = first
      · simp [hname, hc]
      · simp [hname]

theorem apply_changes (extra : List String) (clear : Bool) (lookup : String → Option String)
    (vars : Vars) (name : String) :
    apply (changes extra clear lookup) vars name =
      if clear = true ∧ name = terminalType then none
      else if name ∈ diagnosticNames ++ extra ∧ Copyable lookup name then lookup name
      else vars name := by
  have hset := foldl_assign lookup (diagnosticNames ++ extra).eraseDups vars name
  simp only [List.mem_eraseDups] at hset
  rw [← hset, ← copies, ← set_changes extra clear]
  cases clear with
  | false => simp [apply, changes]
  | true => simp [apply, changes, unassign]

theorem lookup_filterMap (names : List String) (vars : Vars) (name : String) :
    (names.filterMap fun name => (vars name).map fun value => (name, value)).lookup name =
      if name ∈ names then vars name else none := by
  induction names with
  | nil => rfl
  | cons first rest ih =>
    cases hv : vars first with
    | none =>
      rw [List.filterMap_cons_none (by simp [hv]), ih]
      by_cases hname : name = first
      · simp [hname, hv]
      · simp [hname]
    | some value =>
      rw [List.filterMap_cons_some (b := (first, value)) (by simp [hv])]
      by_cases hname : name = first
      · simp [hname, hv]
      · simp [hname, ih, List.lookup_cons, beq_false_of_ne hname]

theorem lookup_entries (names : List String) (vars : Vars) (name : String) :
    (entries names vars).lookup name = if name ∈ names then vars name else none := by
  rw [entries, lookup_filterMap]
  simp [List.mem_eraseDups]

end Environment

namespace Spawn

open Environment

theorem withShell_eq (vars : Vars) (name : String) :
    withShell vars name = if name = "SHELL" then (vars name).or (some "/bin/sh") else vars name := by
  unfold withShell
  cases hs : vars "SHELL" with
  | none =>
    by_cases hname : name = "SHELL"
    · simp [hname, hs, assign]
    · simp [hname, assign]
  | some shell =>
    by_cases hname : name = "SHELL"
    · simp [hname, hs]
    · simp [hname]

-- The changes never take the shell's variable away, so it can be added before them as well.
theorem withShell_apply_changes (extra : List String) (clear : Bool) (lookup : String → Option String)
    (vars : Vars) :
    withShell (apply (changes extra clear lookup) vars) =
      apply (changes extra clear lookup) (withShell vars) := by
  funext name
  rw [withShell_eq, apply_changes, apply_changes, withShell_eq]
  by_cases hname : name = "SHELL"
  · subst hname
    have hkept : ¬(clear = true ∧ "SHELL" = terminalType) := by simp [terminalType]
    rw [if_pos rfl, if_neg hkept, if_neg hkept]
    by_cases hcopied : "SHELL" ∈ diagnosticNames ++ extra ∧ Copyable lookup "SHELL"
    · obtain ⟨value, hvalue⟩ := Option.ne_none_iff_exists'.mp hcopied.2.1
      rw [if_pos hcopied, if_pos hcopied, hvalue]
      rfl
    · rw [if_neg hcopied, if_neg hcopied, if_pos rfl]
  · rw [if_neg hname, if_neg hname]

theorem vars_eq_none {site : Site} {name : String} (h : name ∉ site.env.map (·.1)) :
    site.vars name = none := by
  rw [Site.vars, List.lookup_eq_none_iff]
  intro entry hentry
  have hne : name ≠ entry.1 := by
    rintro rfl
    exact h (List.mem_map_of_mem hentry)
  simpa using hne

theorem lookup_environment (site : Site) (extra : List String) (clear : Bool)
    (lookup : String → Option String) (name : String) :
    (environment site (changes extra clear lookup)).lookup name =
      apply (changes extra clear lookup) (withShell site.vars) name := by
  rw [environment, lookup_entries, withShell_apply_changes]
  split
  next => rfl
  next hmem =>
    simp only [List.cons_append, List.mem_cons, List.mem_append, not_or] at hmem
    obtain ⟨hshell, hsite, hset⟩ := hmem
    have hcopied : ¬(name ∈ diagnosticNames ++ extra ∧ Copyable lookup name) := by
      rintro ⟨hname, hc⟩
      obtain ⟨value, hvalue, he⟩ := entryOf_of_copyable hc
      refine hset (List.mem_map.mpr ⟨(name, value), ?_, rfl⟩)
      rw [set_changes, mem_copies_iff]
      exact ⟨hname, (entryOf_eq_some_iff.mp he).2⟩
    rw [apply_changes, if_neg hcopied, withShell_eq, if_neg hshell, vars_eq_none hsite, ite_self]

-- What a child finds in its environment, and what is set for it in which order. The session's own
-- environment always names a shell.
theorem child_environment (extra : List String) (clear : Bool) (lookup : String → Option String) :
    let changed := changes extra clear lookup
    let names := diagnosticNames ++ extra
    let expected : Vars → Vars := fun vars name =>
      if clear = true ∧ name = terminalType then none
      else if name ∈ names ∧ lookup name ≠ none ∧ lookup name ≠ some "" then lookup name
      else vars name
    (∀ vars, apply changed vars = expected vars) ∧
      (∀ site name, (environment site changed).lookup name = expected (withShell site.vars) name) ∧
      (changed.set.map (·.1)).Nodup ∧
      (changed.set.map (·.1)).Pairwise (names.idxOf · < names.idxOf ·) ∧
      ∀ entry, entry ∈ changed.set ↔
        entry.1 ∈ names ∧ lookup entry.1 = some entry.2 ∧ entry.2 ≠ "" := by
  intro changed names expected
  have happly : ∀ vars, apply changed vars = expected vars :=
    fun vars => funext (apply_changes extra clear lookup vars)
  have hset : changed.set = copies lookup names := set_changes extra clear lookup
  have hordered := pairwise_copies lookup names
  refine ⟨happly, fun site name => ?_, ?_, ?_, fun entry => ?_⟩
  · rw [lookup_environment, happly]
  · rw [hset]
    exact hordered.imp fun hlt heq => by simp [heq] at hlt
  · rw [hset]
    exact hordered
  · rw [hset]
    exact mem_copies_iff

-- A name that is listed twice is set once, and the terminal type is removed although it is listed.
example :
    let changed := changes ["LANG", "TERM", "LANG", "EMPTY"] true fun name =>
      if name = "EMPTY" then some "" else some ("the " ++ name)
    changed.set.map (·.1) = ["PTYADAPTER_DEBUG", "PTYADAPTER_SHOW_CONSOLE", "LANG", "TERM"] ∧
      apply changed (fun _ => none) "TERM" = none := by
  decide +kernel

end Spawn

end TermBridge
