import TermBridge.Shell.Fields
import TermBridge.Shell.State

namespace TermBridge.Shell.Globbing

-- The part of a pattern in front of a slash, the slash with the backslash in front of it, and the rest.
def cutSlash : List Char → List Char × List Char
  | [] => ([], [])
  | '/' :: rest => ([], '/' :: rest)
  | '\\' :: '/' :: rest => ([], '\\' :: '/' :: rest)
  | '\\' :: c :: rest => (fun r => ('\\' :: c :: r.1, r.2)) (cutSlash rest)
  | c :: rest => (fun r => (c :: r.1, r.2)) (cutSlash rest)

-- Whether a bracket is closed before the next slash. Its first character does not close it.
def closes : List Char → Bool
  | [] => false
  | '\\' :: [] => false
  | '\\' :: '/' :: _ | '/' :: _ => false
  | '\\' :: _ :: rest => closesNext rest
  | _ :: rest => closesNext rest
where
  closesNext : List Char → Bool
    | ']' :: _ => true
    | '\\' :: '/' :: _ | '/' :: _ | [] => false
    | '\\' :: [] => false
    | '\\' :: _ :: rest => closesNext rest
    | _ :: rest => closesNext rest

-- Whether a part of a path is a pattern.
def isSpecial : List Char → Bool
  | [] => false
  | '*' :: _ | '?' :: _ => true
  | '[' :: '!' :: rest => closes rest || isSpecial rest
  | '[' :: rest => closes rest || isSpecial rest
  | '\\' :: _ :: rest => isSpecial rest
  | _ :: rest => isSpecial rest

-- The slash at the beginning of the rest of a pattern.
def dropSlash : List Char → List Char
  | '\\' :: '/' :: rest => rest
  | _ :: rest => rest
  | [] => []

def isHidden (name : String) : Bool :=
  name.startsWith "."

def asksForHidden (part : List Char) : Bool :=
  match part with
  | '\\' :: '.' :: _ | '.' :: _ => true
  | _ => false

-- The names in a directory that match a part of a path.
def namesIn (directory : String) (part : List Char) : Sh (List String) := do
  match ← Sh.call (.entries (if directory.isEmpty then "." else directory)) with
  | .error _ => return []
  | .ok names =>
    return (("." :: ".." :: names).filter fun name =>
      (!isHidden name || asksForHidden part) && Pattern.isMatch part name.toList)

-- The paths that match a pattern behind a path that is there. The fuel is the length of the pattern.
def pathsFrom : Nat → String → List Char → Sh (List String)
  | 0, _, _ => return []
  | fuel + 1, front, pattern => do
    let (part, rest) := cutSlash pattern
    if !isSpecial part then
      let path := front ++ String.ofList (Pattern.unescape part)
      if rest.isEmpty then
        match ← Sh.call (.status path false) with
        | .ok _ => return [path]
        | .error _ => return []
      else pathsFrom fuel (path ++ "/") (dropSlash rest)
    else
      let paths := (← namesIn front part).map (front ++ ·)
      if rest.isEmpty then return paths
      else return (← paths.mapM fun path => pathsFrom fuel (path ++ "/") (dropSlash rest)).flatten

def parts : Nat → List Char → List (List Char)
  | 0, _ => []
  | fuel + 1, pattern =>
    let (part, rest) := cutSlash pattern
    if rest.isEmpty then [part] else part :: parts fuel (dropSlash rest)

def hasPatternChar (f : Field) : Bool :=
  f.chars.any fun c => c == '*' || c == '?' || c == '['

def expand (f : Field) : Sh (List String) := do
  let pattern := f.pattern
  if (← Sh.has 'f') || !hasPatternChar f || !(parts (pattern.length + 1) pattern).any isSpecial then
    return [f.text]
  else
    match ← pathsFrom (pattern.length + 1) "" pattern with
    | [] => return [f.text]
    | paths => return paths.mergeSort fun a b => a ≤ b

end TermBridge.Shell.Globbing
