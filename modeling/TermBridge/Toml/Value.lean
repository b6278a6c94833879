namespace TermBridge.Toml

-- How a table came about: written by a header, implied by the header of a table inside it, made by a
-- dotted key, or written inline, which closes it.
inductive Origin where
  | header
  | implied
  | dotted
  | inline
  deriving DecidableEq, Repr

-- Floats and dates are kept as they were written.
inductive Value where
  | string (s : String)
  | boolean (b : Bool)
  | integer (n : Int)
  | float (text : String)
  | date (text : String)
  | array (items : List Value)
  -- The tables of one repeated header, and the entries of each.
  | tables (items : List (List (String × Value)))
  | table (origin : Origin) (entries : List (String × Value))
  deriving Repr

abbrev Entries := List (String × Value)

namespace Entries

def find? (entries : Entries) (key : String) : Option Value :=
  entries.lookup key

-- Replaces the value of `key`, or adds it behind the others.
def alter (key : String) (f : Option Value → Option Value) : Entries → Option Entries
  | [] => (f none).map fun v => [(key, v)]
  | (k, v) :: rest =>
    if k = key then (f (some v)).map fun v => (k, v) :: rest
    else (alter key f rest).map ((k, v) :: ·)

-- Changes the last of several tables.
def alterLast (f : Entries → Option Entries) : List Entries → Option (List Entries)
  | [] => none
  | [entries] => (f entries).map fun e => [e]
  | entries :: rest => (alterLast f rest).map (entries :: ·)

def removeKey (key : String) (entries : Entries) : Entries :=
  entries.filter (·.1 != key)

-- Assigns to a key that may be dotted. Tables on the way are made as needed; a table that a header
-- has written takes no dotted key from outside. `here` says whether the last part may be added to
-- the table that the way has led to so far.
def assign (here : Bool) : List String → String → Value → Entries → Option Entries
  | [], key, v, entries =>
    if here && (entries.find? key).isNone then some (entries ++ [(key, v)]) else none
  | part :: path, key, v, entries =>
    entries.alter part fun
      | none => (assign true path key v []).map (.table .dotted)
      | some (.table .implied inner) => (assign false path key v inner).map (.table .implied)
      | some (.table .dotted inner) => (assign true path key v inner).map (.table .dotted)
      | some (.tables items) => (alterLast (assign false path key v) items).map .tables
      | some _ => none

-- Follows the path of a header and changes the table it leads to.
def follow : List String → (Entries → Option Entries) → Entries → Option Entries
  | [], f, entries => f entries
  | part :: path, f, entries =>
    entries.alter part fun
      | none => (follow path f []).map (.table .implied)
      | some (.table .inline _) => none
      | some (.table origin inner) => (follow path f inner).map (.table origin)
      | some (.tables items) => (alterLast (follow path f) items).map .tables
      | some _ => none

end Entries

-- An inline table, from its keys and values in order.
def Value.ofInline (pairs : List (List String × String × Value)) : Option Value :=
  (pairs.foldlM (fun entries pair => Entries.assign true pair.1 pair.2.1 pair.2.2 entries) []).map
    (.table .inline)

inductive Statement where
  | assign (path : List String) (key : String) (value : Value)
  | table (path : List String) (key : String)
  | element (path : List String) (key : String)
  deriving Repr

-- A table under construction: the table of the last header, open, and the rest of the document.
-- The open table is not part of `root` until it is closed.
structure Builder where
  root : Entries := []
  header : Option (Bool × List String × String) := none
  current : Entries := []

namespace Builder

-- Puts the open table in its place.
def close (b : Builder) : Option Entries :=
  match b.header with
  | none => some b.current
  | some (true, path, key) =>
    Entries.follow path (Entries.alter key fun
      | none => some (.tables [b.current])
      | some (.tables items) => some (.tables (items ++ [b.current]))
      | some _ => none) b.root
  | some (false, path, key) =>
    Entries.follow path (Entries.alter key fun
      | none => some (.table .header b.current)
      | some _ => none) b.root

-- The entries that `key` has in the table at the end of `path`, where a header for it is in order:
-- it is new, or it was only implied so far.
def opened (path : List String) (key : String) (root : Entries) : Option Entries :=
  match path with
  | [] =>
    match root.find? key with
    | none => some []
    | some (.table .implied inner) => some inner
    | some _ => none
  | part :: path =>
    match root.find? part with
    | none => some []
    | some (.table .inline _) => none
    | some (.table _ inner) => opened path key inner
    | some (.tables items) =>
      match items.getLast? with
      | some inner => opened path key inner
      | none => none
    | some _ => none

def add (b : Builder) : Statement → Option Builder
  | .assign path key v =>
    (Entries.assign true path key v b.current).map fun entries => { b with current := entries }
  | .table path key => do
    let root ← b.close
    let inner ← opened path key root
    let root ← Entries.follow path (fun entries => some (Entries.removeKey key entries)) root
    return { root := root, header := some (false, path, key), current := inner }
  | .element path key => do
    let root ← b.close
    -- a place that holds anything but tables of the same header is refused
    let _ ← Entries.follow path (Entries.alter key fun
      | none => some (.tables [[]])
      | some (.tables items) => some (.tables items)
      | some _ => none) root
    return { root := root, header := some (true, path, key), current := [] }

end Builder

def Entries.ofStatements (statements : List Statement) : Option Entries := do
  let b ← statements.foldlM Builder.add {}
  b.close

end TermBridge.Toml
