import TermBridge.Shell.State

namespace TermBridge.Shell.Sh

def lookup (name : String) : Sh (Option String) := do
  return (← get).bindings.value? name

def separatorsName : String := "IFS"

def standardSeparators : String := " \t\n"

def optionIndexName : String := "OPTIND"

def optionArgumentName : String := "OPTARG"

def searchPathName : String := "PATH"

def homeName : String := "HOME"

def workingName : String := "PWD"

def formerWorkingName : String := "OLDPWD"

-- What follows from a new value.
def react (name value : String) : Sh Unit := do
  if name = searchPathName then modify fun s => { s with found := [] }
  else if name = optionIndexName then
    let n ← number value
    modify fun s => { s with parameters := { s.parameters with
      optionIndex := if n = 0 then 1 else n
      optionOffset := none } }

-- Gives a variable a value, without anything that follows from it.
def setQuietly (name : String) (value : Option String) (marks : Variables.Marks) : Sh Unit := do
  let s ← get
  let marks := { marks with exported := marks.exported || s.options.contains 'a' }
  match s.bindings.set? name value marks with
  | some vs => set { s with bindings := vs }
  | none => fail (name ++ ": is read only")

-- Gives a variable a value, or takes it away.
def assign (name : String) (value : Option String) (marks : Variables.Marks) : Sh Unit := do
  if !Word.isName name then fail (name ++ ": bad variable name")
  let s ← get
  let readOnly := (s.bindings.find? name).any (·.readOnly)
  if !readOnly then react name (value.getD "")
  setQuietly name value marks

def setTo (name value : String) : Sh Unit :=
  assign name (some value) {}

def unset (name : String) : Sh Unit :=
  assign name none {}

-- The name and the value of an assignment, as far as there is one.
def splitAssignment (text : String) : String × Option String :=
  let name := text.toList.takeWhile (· != '=')
  match text.toList.drop name.length with
  | _ :: value => (String.ofList name, some (String.ofList value))
  | [] => (text, none)

-- Local variables.

def remember (f : Former) : Sh Unit :=
  modify fun s => { s with formers := match s.formers with
    | front :: rest => (f :: front) :: rest
    | [] => [] }

-- Makes a variable local to what is running. It keeps its value if it is not given another one. A dash
-- stands for the options.
def makeLocal (text : String) (marks : Variables.Marks) : Sh Unit := do
  let s ← get
  let (name, value) := splitAssignment text
  if text = "-" then remember (.options s.options)
  else
    match s.bindings.find? name with
    | none => do
      assign name value { marks with permanent := true }
      remember (.nothing name)
    | some v => do
      if value.isSome then assign name value { marks with permanent := true }
      else set { s with bindings := s.bindings.put { v with permanent := true } }
      remember (.variable v)

def restoreFormer : Former → Sh Unit
  | .options letters => modify fun s => { s with options := letters }
  | .variable v => do
    react v.name (v.value.getD "")
    modify fun s => { s with bindings := s.bindings.put v }
  | .nothing name => do
    modify fun s => { s with bindings := match s.bindings.find? name with
      | some v => s.bindings.put { v with permanent := false, readOnly := false }
      | none => s.bindings }
    unset name

def enterLocals : Sh Unit :=
  modify fun s => { s with formers := [] :: s.formers }

def Former.isOptions : Former → Bool
  | .options _ => true
  | _ => false

-- Gives back what has become local since. Whether options are among that is the result.
def leaveLocals : Sh Bool := do
  match (← get).formers with
  | [] => return false
  | front :: rest => do
    modify fun s => { s with formers := rest }
    front.forM restoreFormer
    return front.any Former.isOptions

end TermBridge.Shell.Sh
