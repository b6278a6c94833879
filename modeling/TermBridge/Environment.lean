import TermBridge.Session.Config

namespace TermBridge.Environment

def diagnosticNames : List String := ["PTYADAPTER_DEBUG", "PTYADAPTER_SHOW_CONSOLE"]

def terminalType : String := "TERM"

-- Adds one name to the variables to set, unless it is there already or has no value to copy.
def addName (lookup : String → Option String) (set : List (String × String)) (name : String) :
    List (String × String) :=
  if set.any (·.1 == name) then set
  else
    match (lookup name).filter (!·.isEmpty) with
    | some value => set ++ [(name, value)]
    | none => set

def changes (extra : List String) (clearTerminalType : Bool) (lookup : String → Option String) :
    EnvironmentChanges where
  set := (diagnosticNames ++ extra).foldl (addName lookup) []
  remove := if clearTerminalType then [terminalType] else []

-- An environment as a partial map from names to values.
abbrev Vars := String → Option String

def assign (vars : Vars) (name value : String) : Vars :=
  fun n => if n = name then some value else vars n

def unassign (vars : Vars) (name : String) : Vars :=
  fun n => if n = name then none else vars n

-- Variables are set first and removed afterwards, so a name in both lists ends up absent.
def apply (c : EnvironmentChanges) (vars : Vars) : Vars :=
  c.remove.foldl unassign (c.set.foldl (fun vars entry => assign vars entry.1 entry.2) vars)

-- The variables with their values, in the order of their names. Each has one of the given names.
def entries (names : List String) (vars : Vars) : List (String × String) :=
  (names.eraseDups.mergeSort fun a b => a ≤ b).filterMap fun name =>
    (vars name).map fun value => (name, value)

end TermBridge.Environment
