import Mathlib.Logic.Relation
import TermBridge.Settings.Location

namespace TermBridge

namespace Toml.Entries

variable {entries others : Entries} {key name : String}

theorem find?_cons (entry : String × Value) (rest : Entries) (name : String) :
    find? (entry :: rest) name = if name = entry.1 then some entry.2 else find? rest name := by
  have hlookup : find? (entry :: rest) name =
      if name == entry.1 then some entry.2 else find? rest name := by
    rw [find?, find?, show entry :: rest = (entry.1, entry.2) :: rest from rfl, List.lookup_cons]
    cases name == entry.1 <;> rfl
  simpa using hlookup

theorem find?_alter {change : Option Value → Option Value} (h : entries.alter key change = some others)
    (name : String) :
    others.find? name = if name = key then change (entries.find? key) else entries.find? name := by
  induction entries generalizing others with
  | nil =>
    obtain ⟨value, hvalue, rfl⟩ := Option.map_eq_some_iff.mp h
    rw [find?_cons, ← hvalue]
    rfl
  | cons entry rest ih =>
    simp only [alter] at h
    rw [find?_cons, find?_cons]
    split at h
    next hfirst =>
      obtain ⟨changed, hchanged, rfl⟩ := Option.map_eq_some_iff.mp h
      rw [find?_cons, hfirst, if_pos rfl, hchanged]
      split <;> rfl
    next hfirst =>
      obtain ⟨altered, haltered, rfl⟩ := Option.map_eq_some_iff.mp h
      rw [find?_cons, ih haltered, if_neg (Ne.symm hfirst)]
      by_cases hname : name = entry.1
      · rw [if_pos hname, if_pos hname, hname, if_neg hfirst]
      · rw [if_neg hname, if_neg hname]

theorem find?_removeKey_of_ne (h : name ≠ key) (entries : Entries) :
    (entries.removeKey key).find? name = entries.find? name := by
  induction entries with
  | nil => rfl
  | cons entry rest ih =>
    simp only [removeKey] at ih ⊢
    rw [List.filter_cons, find?_cons]
    by_cases hkey : entry.1 = key
    · have hname : name ≠ entry.1 := hkey ▸ h
      rw [if_neg (by simpa using hkey), if_neg hname, ih]
    · rw [if_pos (by simpa using hkey), find?_cons, ih]

-- One change to a table at a key that is none of the names: the key is added, or gets another value, or is
-- removed.
inductive Edit (names : List String) (entries : Entries) : Entries → Prop where
  | put {key : String} {value : Value} {others : Entries} (hkey : key ∉ names)
    (h : entries.alter key (fun _ => some value) = some others) : Edit names entries others
  | remove {key : String} (hkey : key ∉ names) : Edit names entries (entries.removeKey key)

theorem Edit.find? {names : List String} (h : Edit names entries others) (hname : name ∈ names) :
    others.find? name = entries.find? name := by
  cases h with
  | put hkey hput => rw [find?_alter hput, if_neg (ne_of_mem_of_not_mem hname hkey)]
  | remove hkey => exact find?_removeKey_of_ne (ne_of_mem_of_not_mem hname hkey) entries

end Toml.Entries

namespace Settings

open Toml (Value Entries)

-- The value that stands for a list of texts.
def texts (list : List String) : Value :=
  .array (list.map .string)

theorem boolean_eq_some_iff (v : Value) (b : Bool) : boolean v = some b ↔ v = .boolean b := by
  cases v <;> simp [boolean]

theorem string_eq_some_iff (v : Value) (s : String) : string v = some s ↔ v = .string s := by
  cases v <;> simp [string]

theorem mapM_string_eq_some_iff (items : List Value) (list : List String) :
    items.mapM string = some list ↔ items = list.map .string := by
  induction items generalizing list with
  | nil => cases list <;> simp
  | cons item rest ih =>
    have hcons : (item :: rest).mapM string = some list ↔
        ∃ first, string item = some first ∧ ∃ others, rest.mapM string = some others ∧
          first :: others = list := by
      simp [List.mapM_cons, Option.bind_eq_some_iff]
    rw [hcons]
    constructor
    · rintro ⟨first, hfirst, others, hothers, rfl⟩
      rw [(string_eq_some_iff item first).mp hfirst, (ih others).mp hothers, List.map_cons]
    · intro hitems
      obtain ⟨first, others, rfl, hfirst, hothers⟩ := List.map_eq_cons_iff.mp hitems.symm
      exact ⟨first, (string_eq_some_iff item first).mpr hfirst.symm, others, (ih others).mpr hothers.symm, rfl⟩

-- One item that is no text refuses the whole list.
theorem stringList_eq_some_iff (v : Value) (list : List String) :
    stringList v = some list ↔ v = texts list := by
  cases v with
  | array items => simpa [stringList, texts] using mapM_string_eq_some_iff items list
  | _ => simp [stringList, texts]

-- A setting by what is found in the document for it. `write` gives the values of the setting's type.
section Given

variable {α : Type} (default : α) (write : α → Value)

def Given (found : Option Value) (setting : α) : Prop :=
  found = some (write setting) ∨ (found = none ∧ setting = default)

def Typed (found : Option Value) : Prop :=
  ∀ v, found = some v → ∃ setting, v = write setting

theorem exists_given_iff (found : Option Value) :
    (∃ setting, Given default write found setting) ↔ Typed write found := by
  cases found with
  | none => simp [Given, Typed]
  | some v => simp [Given, Typed]

theorem orDefault_eq_some_iff {read : Value → Option α} (hread : ∀ v x, read v = some x ↔ v = write x)
    (found : Option Value) (setting : α) :
    orDefault default read found = some setting ↔ Given default write found setting := by
  cases found with
  | none => simp [orDefault, Given, eq_comm]
  | some v => simp [orDefault, Given, hread]

end Given

-- The settings of the environment, if there are any, are a table.
def Grouped (entries : Entries) : Prop :=
  ∀ v, entries.find? "environment" = some v → ∃ origin group, v = .table origin group

def environmentEntries (entries : Entries) : Entries :=
  match entries.find? "environment" with
  | some (.table _ group) => group
  | _ => []

def settingNames : List String := ["mouse", "log_level", "environment"]

def environmentNames : List String := ["clear_term", "propagate"]

theorem environmentEntries_of_table {entries : Entries} {origin : Toml.Origin} {group : Entries}
    (h : entries.find? "environment" = some (.table origin group)) : environmentEntries entries = group := by
  simp [environmentEntries, h]

theorem environmentOf_eq_some_iff (clearTerm propagate : Option Value) (s : EnvironmentSettings) :
    environmentOf clearTerm propagate = some s ↔
      Given true .boolean clearTerm s.clearTerm ∧ Given [] texts propagate s.propagate := by
  have hparts : environmentOf clearTerm propagate = some s ↔
      orDefault true boolean clearTerm = some s.clearTerm ∧
        orDefault [] stringList propagate = some s.propagate := by
    cases s
    cases hc : orDefault true boolean clearTerm <;> cases hp : orDefault [] stringList propagate <;>
      simp [environmentOf, hc, hp]
  rw [hparts, orDefault_eq_some_iff _ _ boolean_eq_some_iff, orDefault_eq_some_iff _ _ stringList_eq_some_iff]

-- A document without the group has the settings of an empty one.
theorem environment_eq_some_iff {entries : Entries} (h : Grouped entries) (s : EnvironmentSettings) :
    orDefault {} group (entries.find? "environment") = some s ↔
      environmentOf ((environmentEntries entries).find? "clear_term")
        ((environmentEntries entries).find? "propagate") = some s := by
  cases hfound : entries.find? "environment" with
  | none =>
    have hnone : environmentEntries entries = [] := by simp only [environmentEntries, hfound]
    rw [hnone]
    rfl
  | some v =>
    obtain ⟨origin, inner, rfl⟩ := h v hfound
    rw [environmentEntries_of_table hfound]
    rfl

theorem ofEntries_eq_some_iff {entries : Entries} (h : Grouped entries) (s : Settings) :
    ofEntries entries = some s ↔
      Given false .boolean (entries.find? "mouse") s.mouse ∧
      Given "info" .string (entries.find? "log_level") s.logLevel ∧
      Given true .boolean ((environmentEntries entries).find? "clear_term") s.environment.clearTerm ∧
      Given [] texts ((environmentEntries entries).find? "propagate") s.environment.propagate := by
  have hparts : ofEntries entries = some s ↔
      orDefault false boolean (entries.find? "mouse") = some s.mouse ∧
        orDefault "info" string (entries.find? "log_level") = some s.logLevel ∧
        orDefault {} group (entries.find? "environment") = some s.environment := by
    cases s
    cases hm : orDefault false boolean (entries.find? "mouse") <;>
      cases hl : orDefault "info" string (entries.find? "log_level") <;>
      cases he : orDefault {} group (entries.find? "environment") <;> simp [ofEntries, hm, hl, he]
  rw [hparts, environment_eq_some_iff h, environmentOf_eq_some_iff,
    orDefault_eq_some_iff _ _ boolean_eq_some_iff, orDefault_eq_some_iff _ _ string_eq_some_iff]

-- One change to a document that concerns no setting, at either level.
inductive Edit (entries : Entries) : Entries → Prop where
  | outer {others : Entries} (h : Entries.Edit settingNames entries others) : Edit entries others
  | inner {origin : Toml.Origin} {group changed others : Entries}
    (hgroup : entries.find? "environment" = some (.table origin group))
    (h : Entries.Edit environmentNames group changed)
    (hput : entries.alter "environment" (fun _ => some (.table origin changed)) = some others) :
    Edit entries others

-- The three values that are read are those of the document before the change, or, for the group, a table
-- with the same settings.
theorem Edit.ofEntries_eq {entries others : Entries} (h : Edit entries others) :
    ofEntries others = ofEntries entries := by
  cases h with
  | outer h =>
    have hmouse : others.find? "mouse" = entries.find? "mouse" := h.find? (by decide)
    have hlevel : others.find? "log_level" = entries.find? "log_level" := h.find? (by decide)
    have hgroup : others.find? "environment" = entries.find? "environment" := h.find? (by decide)
    rw [ofEntries, ofEntries, hmouse, hlevel, hgroup]
  | @inner origin before changed _ hgroup h hput =>
    have hmouse : others.find? "mouse" = entries.find? "mouse" := by
      rw [Entries.find?_alter hput, if_neg (by decide)]
    have hlevel : others.find? "log_level" = entries.find? "log_level" := by
      rw [Entries.find?_alter hput, if_neg (by decide)]
    have hchanged : others.find? "environment" = some (.table origin changed) := by
      rw [Entries.find?_alter hput, if_pos rfl]
    have hclear : changed.find? "clear_term" = before.find? "clear_term" := h.find? (by decide)
    have hpropagate : changed.find? "propagate" = before.find? "propagate" := h.find? (by decide)
    have hsame : group (.table origin changed) = group (.table origin before) := by
      rw [group, group, hclear, hpropagate]
    rw [ofEntries, ofEntries, hmouse, hlevel, hchanged, hgroup, orDefault, orDefault, hsame]

theorem ofEntries_of_edits {entries others : Entries} (h : Relation.ReflTransGen Edit entries others) :
    ofEntries others = ofEntries entries := by
  induction h with
  | refl => rfl
  | tail _ hedit ih => rw [hedit.ofEntries_eq, ih]

-- A file whose text is the document loads as the document.
theorem load_content {bytes : Bytes} {text : String} {entries : Entries}
    (htext : Utf8.decode? bytes = some text) (hparse : Toml.parse? text = some entries) :
    load (.content bytes) = match ofEntries entries with
      | some s => .ok s
      | none => .error .malformed := by
  cases hs : ofEntries entries with
  | some s => simp [load, ofContent, htext, ofText, hparse, hs]
  | none => simp [load, ofContent, htext, ofText, hparse, hs]

theorem exists_ofEntries_iff {entries : Entries} (h : Grouped entries) :
    (∃ s, ofEntries entries = some s) ↔
      Typed Value.boolean (entries.find? "mouse") ∧
      Typed Value.string (entries.find? "log_level") ∧
      Typed Value.boolean ((environmentEntries entries).find? "clear_term") ∧
      Typed texts ((environmentEntries entries).find? "propagate") := by
  constructor
  · rintro ⟨s, hs⟩
    obtain ⟨hmouse, hlevel, hclear, hpropagate⟩ := (ofEntries_eq_some_iff h s).mp hs
    exact ⟨(exists_given_iff _ _ _).mp ⟨_, hmouse⟩, (exists_given_iff _ _ _).mp ⟨_, hlevel⟩,
      (exists_given_iff _ _ _).mp ⟨_, hclear⟩, (exists_given_iff _ _ _).mp ⟨_, hpropagate⟩⟩
  · rintro ⟨hmouse, hlevel, hclear, hpropagate⟩
    obtain ⟨mouse, hmouse⟩ := (exists_given_iff false _ _).mpr hmouse
    obtain ⟨level, hlevel⟩ := (exists_given_iff "info" _ _).mpr hlevel
    obtain ⟨clear, hclear⟩ := (exists_given_iff true _ _).mpr hclear
    obtain ⟨propagate, hpropagate⟩ := (exists_given_iff [] _ _).mpr hpropagate
    exact ⟨⟨mouse, level, ⟨clear, propagate⟩⟩,
      (ofEntries_eq_some_iff h _).mpr ⟨hmouse, hlevel, hclear, hpropagate⟩⟩

theorem settings_of_document {entries : Entries} (h : Grouped entries) :
    (∀ s, ofEntries entries = some s ↔
      Given false .boolean (entries.find? "mouse") s.mouse ∧
      Given "info" .string (entries.find? "log_level") s.logLevel ∧
      Given true .boolean ((environmentEntries entries).find? "clear_term") s.environment.clearTerm ∧
      Given [] texts ((environmentEntries entries).find? "propagate") s.environment.propagate) ∧
    ((∃ s, ofEntries entries = some s) ↔
      Typed Value.boolean (entries.find? "mouse") ∧
      Typed Value.string (entries.find? "log_level") ∧
      Typed Value.boolean ((environmentEntries entries).find? "clear_term") ∧
      Typed texts ((environmentEntries entries).find? "propagate")) ∧
    (∀ others, Relation.ReflTransGen Edit entries others → ofEntries others = ofEntries entries) ∧
    ∀ bytes text, Utf8.decode? bytes = some text → Toml.parse? text = some entries →
      load (.content bytes) = match ofEntries entries with
        | some s => .ok s
        | none => .error .malformed :=
  ⟨ofEntries_eq_some_iff h, exists_ofEntries_iff h, fun _ => ofEntries_of_edits,
    fun _ _ => load_content⟩

-- The group of the first document gives one of its two settings, and the other keeps its default. The second
-- document has a number in the list.
theorem settings_of_document_partly_given :
    let document := fun list => [("colour", Value.integer 3),
      ("environment", .table .header [("shell", .tables []), ("propagate", .array list)])]
    ofEntries (document [.string "LANG"]) = some ⟨false, "info", ⟨true, ["LANG"]⟩⟩ ∧
      ofEntries (document [.string "LANG", .integer 3]) = none := by
  intro document
  have hgrouped : ∀ list, Grouped (document list) := by
    intro list v hv
    exact ⟨.header, _, (Option.some.inj hv).symm⟩
  constructor
  · refine ((settings_of_document (hgrouped _)).1 _).mpr ⟨?_, ?_, ?_, ?_⟩
    · exact .inr ⟨rfl, rfl⟩
    · exact .inr ⟨rfl, rfl⟩
    · exact .inr ⟨rfl, rfl⟩
    · exact .inl rfl
  · rw [Option.eq_none_iff_forall_ne_some]
    intro s hs
    obtain ⟨-, -, -, hlist⟩ := (settings_of_document (hgrouped _)).2.1.mp ⟨s, hs⟩
    obtain ⟨list, hlist⟩ := hlist _ rfl
    have hitems : [Value.string "LANG", .integer 3] = list.map .string := Value.array.inj hlist
    obtain ⟨first, rest, -, -, hrest⟩ := List.map_eq_cons_iff.mp hitems.symm
    obtain ⟨second, -, -, hsecond, -⟩ := List.map_eq_cons_iff.mp hrest
    exact Value.noConfusion hsecond

end Settings

end TermBridge
