import TermBridge.Shell.Syntax

namespace TermBridge.Shell

structure Variable where
  name : String
  value : Option String := none
  exported : Bool := false
  readOnly : Bool := false
  -- It stays known without a value.
  permanent : Bool := false
  deriving DecidableEq, Repr

-- The text of a variable, which is only its name if it has no value.
def Variable.text (v : Variable) : String :=
  match v.value with
  | some value => v.name ++ "=" ++ value
  | none => v.name

-- The variables in the order in which they have become known.
structure Variables where
  entries : List Variable
  deriving DecidableEq, Repr

namespace Variables

def find? (vs : Variables) (name : String) : Option Variable :=
  vs.entries.find? (·.name == name)

def value? (vs : Variables) (name : String) : Option String :=
  (vs.find? name).bind (·.value)

def erase (vs : Variables) (name : String) : Variables :=
  ⟨vs.entries.filter (·.name != name)⟩

-- Puts a variable in its place, which is behind all others if it is new.
def put (vs : Variables) (v : Variable) : Variables :=
  if (vs.find? v.name).isSome then
    ⟨vs.entries.map fun w => if w.name == v.name then v else w⟩
  else ⟨vs.entries ++ [v]⟩

-- What becomes of a variable besides its value.
structure Marks where
  exported : Bool := false
  readOnly : Bool := false
  permanent : Bool := false
  deriving DecidableEq, Repr

def Marks.none? (m : Marks) : Bool :=
  m = {}

-- Gives a variable a value, or takes it away. Without a value and without anything else to remember it
-- is forgotten. Nothing becomes of variables that are only read.
def set? (vs : Variables) (name : String) (value : Option String) (marks : Marks) : Option Variables :=
  match vs.find? name with
  | some v =>
    if v.readOnly then none
    else if value.isNone && marks.none? && !v.permanent then some (vs.erase name)
    else
      some (vs.put { v with
        value := value
        exported := v.exported || marks.exported
        readOnly := marks.readOnly
        permanent := v.permanent || marks.permanent })
  | none =>
    if value.isNone && marks.none? then some vs
    else
      some (vs.put ⟨name, value, marks.exported, marks.readOnly, marks.permanent⟩)

-- A number that names are put into groups by.
def groupOf (count : Nat) (name : String) : Nat :=
  let codes := name.toList.map Char.toNat
  (16 * codes.headD 0 + codes.foldl (· + ·) 0) % count

-- Things with names in the order in which they are kept: group by group, and as they came within each.
def inGroups {α : Type} (count : Nat) (name : α → String) (xs : List α) : List α :=
  (List.range count).flatMap fun n => xs.filter fun x => groupOf count (name x) == n

-- Variables are kept in so many groups.
def groups : Nat := 39

-- What programs get.
def environment (vs : Variables) : List String :=
  let exported := vs.entries.filter fun v => v.exported && v.value.isSome
  (inGroups groups Variable.name exported).map Variable.text

def sorted (vs : Variables) : List Variable :=
  vs.entries.mergeSort fun a b => a.name ≤ b.name

end Variables

end TermBridge.Shell
