import TermBridge.Shell.Assign
import TermBridge.Text.Numeral

namespace TermBridge.Shell.Builtins

-- The shell knows its working directory by the path that led there, links included.

-- Takes the last part off a path that is written backwards and ends with a slash. So many characters
-- stay in any case.
def leavePart (least : Nat) : List Char → List Char
  | [] => []
  | c :: rest =>
    if rest.length < least then c :: rest
    else if rest.head? = some '/' then rest
    else leavePart least rest

def enterPart (least : Nat) (path : List Char) (part : String) : List Char :=
  if part.isEmpty || part = "." then path
  else if part = ".." then leavePart least path
  else '/' :: (part.toList.reverse ++ path)

-- Where a path leads from a working directory, by its text alone. Two slashes at the beginning are
-- kept.
def followText (working path : String) : Option String :=
  let start? : Option (List Char × Nat) :=
    match path.toList with
    | '/' :: '/' :: c :: _ => if c = '/' then some (['/'], 1) else some (['/', '/'], 2)
    | ['/', '/'] => some (['/', '/'], 2)
    | '/' :: _ => some (['/'], 1)
    | _ =>
      if working.isEmpty then none
      else
        let start := if working.endsWith "/" then working else working ++ "/"
        some (start.toList.reverse, if start.startsWith "//" then 2 else 1)
  start?.map fun (start, least) =>
    let path := (path.splitOn "/").foldl (enterPart least) start
    String.ofList (if least < path.length then path.drop 1 else path).reverse

-- Takes note of a working directory. Without a path it is asked for.
def setWorking (path : Option String) (former : Option String) : Sh Unit := do
  match former with
  | some former => Sh.assign Sh.formerWorkingName (some former) { exported := true }
  | none => pure ()
  let path ← match path with
    | some path => pure path
    | none => Sh.call .workingDirectory
  modify fun s => { s with working := path }
  Sh.assign Sh.workingName (some path) { exported := true }

-- Whether changing to a directory has gone well.
def changeTo (physical : Bool) (path : String) : Sh Bool := do
  let working := (← get).working
  let followed := if physical then none else followText working path
  match ← Sh.call (.changeDirectory (followed.getD path)) with
  | .error _ => return false
  | .ok () => do
    setWorking followed (some working)
    modify fun s => { s with found := s.found.map fun f => (f.1, f.2.1, true) }
    return true

-- The letter that was given last decides.
def isPhysical (found : List (Char × String)) : Bool :=
  (found.getLast?.map (·.1)) = some 'P'

def pathOptions : List (Char × Bool) := [('L', false), ('P', false)]

-- A path that does not depend on where directories are looked for.
def isPlaced (path : String) : Bool :=
  Files.isAbsolute path || path = "." || path = ".." || path.startsWith "./" || path.startsWith "../"

-- The directory among those to look in, and whether it has to be told where that is.
def inSearched (path : String) : List String → Sh (Option (String × Bool))
  | [] => return none
  | directory :: rest => do
    let candidate := if directory.isEmpty then path else directory ++ "/" ++ path
    match ← Sh.call (.status candidate true) with
    | .error _ => inSearched path rest
    | .ok status =>
      if status.kind = .directory then return some (candidate, !directory.isEmpty)
      else inSearched path rest

def searchedName : String := "CDPATH"

def changeDirectory (args : List String) : Sh Nat := do
  let (found, rest) ← Sh.options pathOptions args
  let (goal, back) ← match rest with
    | [] => pure (← Sh.lookup Sh.homeName, false)
    | "-" :: _ => pure (← Sh.lookup Sh.formerWorkingName, true)
    | goal :: _ => pure (some goal, false)
  let goal := goal.getD ""
  let path := if goal.isEmpty then "." else goal
  let searched ← if isPlaced goal then pure none
    else
      match ← Sh.lookup searchedName with
      | none => pure none
      | some directories => inSearched path (directories.splitOn ":")
  let (target, elsewhere) := searched.getD (path, false)
  if ← changeTo (isPhysical found) target then
    if back || elsewhere then Sh.print ((← get).working ++ "\n")
    return 0
  else Sh.fail ("can't cd to " ++ path)

def printWorking (args : List String) : Sh Nat := do
  let (found, _) ← Sh.options pathOptions args
  let path : String ← if isPhysical found then Sh.call .workingDirectory else pure (← get).working
  Sh.print (path ++ "\n")
  return 0

-- Permissions.

def allPermissions : Nat := 0o777

-- What everybody is granted by one letter, where a letter can also refer to what somebody has already.
def permission (allowed : Nat) (letter : Char) : Nat :=
  match letter with
  | 'r' => 4
  | 'w' => 2
  | 'x' => 1
  | 'u' => allowed / 0o100 % 8
  | 'g' => allowed / 0o10 % 8
  | 'o' => allowed % 8
  | 'X' => if allowed &&& 0o111 ≠ 0 then 1 else 0
  | _ => 0

def position : Char → Nat
  | 'u' => 0o100
  | 'g' => 0o10
  | 'o' => 0o1
  | _ => 0o111

-- The permissions that clauses lead to from those that are allowed so far. `positions` are those of
-- whom the clause is about. The fuel is more than the length of the text.
def clauses (allowed : Nat) : Nat → Nat → Nat → List Char → Option Nat
  | 0, _, result, _ | _, _, result, [] => some result
  | fuel + 1, positions, result, text =>
    let whom := text.takeWhile "augo".toList.contains
    let positions := whom.foldl (fun p c => p ||| position c) positions
    let positions := if positions = 0 then 0o111 else positions
    match text.drop whom.length with
    | [] => none
    | operator :: rest =>
      let letters := rest.takeWhile "rwxugoXs".toList.contains
      let value := positions * letters.foldl (fun v c => v ||| permission allowed c) 0
      let rest := rest.drop letters.length
      let result? :=
        match operator with
        | '-' => some (result - (result &&& value))
        | '+' => some (result ||| value)
        | '=' => some (value ||| (result - (result &&& 7 * positions)))
        | _ => none
      match result?, rest with
      | none, _ => none
      | some result, ',' :: rest => clauses allowed fuel 0 result rest
      | some result, rest =>
        if rest.isEmpty || rest.head?.any "=+-".toList.contains then
          clauses allowed fuel positions result rest
        else none

def permissionText (allowed : Nat) : String :=
  let letters (n : Nat) := String.ofList
    ((if n &&& 4 ≠ 0 then ['r'] else []) ++ (if n &&& 2 ≠ 0 then ['w'] else []) ++
      if n &&& 1 ≠ 0 then ['x'] else [])
  "u=" ++ letters (allowed / 0o100 % 8) ++ ",g=" ++ letters (allowed / 0o10 % 8) ++
    ",o=" ++ letters (allowed % 8)

def withhold (args : List String) : Sh Nat := do
  let (found, rest) ← Sh.options [('S', false)] args
  let mask : Nat ← Sh.call (.setMask 0)
  let _ ← Sh.call (.setMask mask)
  let allowed := allPermissions - mask
  match rest with
  | [] =>
    let digits := String.ofList (Numeral.padLeft 4 '0' (Numeral.octal mask))
    Sh.print ((if found.isEmpty then digits else permissionText allowed) ++ "\n")
  | text :: _ =>
    if text.toList.head?.any Char.isDigit then
      if text.toList.all (Numeral.isDigit 8) then
        let _ ← Sh.call (.setMask (Numeral.ofDigits 8 (Numeral.digits 8 text.toList).1))
      else Sh.illegalNumber text
    else
      match clauses allowed (text.length + 1) 0 allowed text.toList with
      | some allowed =>
        let _ ← Sh.call (.setMask (allPermissions - allowed))
      | none => Sh.fail ("Illegal mode: " ++ text)
  return 0

end TermBridge.Shell.Builtins
