import TermBridge.Programs.Echo
import TermBridge.Programs.Printf
import TermBridge.Shell.Lookup
import TermBridge.Shell.Quote
import TermBridge.Shell.Token

namespace TermBridge.Shell.Builtins

-- Aliases.

def aliasLine (a : String × String) : String :=
  a.1 ++ "=" ++ Quote.encode a.2 ++ "\n"

def setAlias (name value : String) : Sh Unit :=
  modify fun s =>
    { s with aliases :=
      if s.aliases.any (·.1 == name) then
        s.aliases.map fun a => if a.1 == name then (name, value) else a
      else s.aliases ++ [(name, value)] }

-- The name and the value in a text. The equals sign is not looked for at the very beginning.
def aliasParts (text : String) : String × Option String :=
  let front := text.toList.take 1
  let (name, value) := Sh.splitAssignment (String.ofList (text.toList.drop 1))
  (String.ofList front ++ name, value)

def alias_ (args : List String) : Sh Nat := do
  if args.isEmpty then
    let aliases := Variables.inGroups Variables.groups Prod.fst (← get).aliases
    Sh.print (String.join (aliases.map aliasLine))
    return 0
  else
    let statuses ← args.mapM fun text => do
      match aliasParts text with
      | (name, some value) => do
        setAlias name value
        return 0
      | (name, none) =>
        match (← get).aliases.lookup name with
        | some value => do
          Sh.print (aliasLine (name, value))
          return 0
        | none => do
          Sh.complain ("alias: " ++ name ++ " not found\n")
          return 1
    return statuses.foldl max 0

def unalias (args : List String) : Sh Nat := do
  let (found, names) ← Sh.options [('a', false)] args
  if !found.isEmpty then
    modify fun s => { s with aliases := [] }
    return 0
  else
    let statuses ← names.mapM fun name => do
      let known := (← get).aliases.any (·.1 == name)
      modify fun s => { s with aliases := s.aliases.filter (·.1 != name) }
      if known then return 0
      else
        Sh.complain ("unalias: " ++ name ++ " not found\n")
        return 1
    return statuses.foldl max 0

-- What names mean.

-- The meaning of a name, in words or as it would be typed. There is none if the name means nothing.
def meaning? (name : String) (path : Option String) (inWords : Bool) : Sh (Option String) := do
  let s ← get
  let inWordsOr (words brief : String) := some (if inWords then name ++ " is " ++ words else brief)
  if Token.reservedWords.contains name then return inWordsOr "a shell keyword" name
  else
    match s.aliases.lookup name with
    | some value =>
      return inWordsOr ("an alias for " ++ value) ("alias " ++ name ++ "=" ++ Quote.encode value)
    | none =>
      match ← Lookup.early name true with
      | some (.function _) => return inWordsOr "a shell function" name
      | some (.builtin b) =>
        return inWordsOr ((if b.special then "a special " else "a ") ++ "shell builtin") name
      | some _ =>
        match ← Sh.call (.status name true) with
        | .ok _ => return inWordsOr name name
        | .error _ => return none
      | none => do
        let tracked := if path.isNone then s.found.lookup name else none
        let index : Except Errno Nat ← match tracked with
          | some (index, _) => pure (.ok index)
          | none => Lookup.program? name path
        match index with
        | .error _ => return none
        | .ok index =>
          let directory := (Lookup.directories (path.getD (← Lookup.searchPath))).getD index ""
          let file := Lookup.candidate directory name
          return inWordsOr ((if tracked.isSome then "a tracked alias for " else "") ++ file) file

def describe (name : String) (path : Option String) (inWords : Bool) : Sh Nat := do
  match ← meaning? name path inWords with
  | some text => do
    Sh.print (text ++ "\n")
    return 0
  | none => do
    if inWords then Sh.print (name ++ ": not found\n")
    return 127

def type (args : List String) : Sh Nat := do
  let statuses ← args.mapM fun name => describe name none true
  return statuses.foldl max 0

-- The command that looks only for commands, as far as it does not run one.
def command (args : List String) : Sh Nat := do
  let (found, names) ← Sh.options [('p', false), ('v', false), ('V', false)] args
  let path := if found.any (·.1 == 'p') then some Lookup.standardPath else none
  let asks := found.any fun o => o.1 != 'p'
  match names with
  | name :: _ => if asks then describe name path (found.any (·.1 == 'V')) else return 0
  | [] => return 0

-- The places of programs are kept in so many groups.
def placeGroups : Nat := 31

def showPlaces : Sh Nat := do
  let directories := Lookup.directories (← Lookup.searchPath)
  let found := Variables.inGroups placeGroups Prod.fst (← get).found
  Sh.print (String.join (found.map fun (name, index, stale) =>
    Lookup.candidate (directories.getD index "") name ++ (if stale then "*\n" else "\n")))
  return 0

def hash (args : List String) : Sh Nat := do
  let (found, names) ← Sh.options [('r', false)] args
  if !found.isEmpty then
    modify fun s => { s with found := [] }
    return 0
  else if names.isEmpty then showPlaces
  else
    let statuses ← names.mapM fun name => do
      Lookup.forget name
      match ← Lookup.find name true none with
      | .unknown => return 1
      | _ => return 0
    return statuses.foldl max 0

-- Printing.

def echo (args : List String) : Sh Nat := do
  Sh.print (Programs.Echo.output .builtin args)
  return 0

def printf (args : List String) : Sh Nat := do
  match ← Sh.noOptions args with
  | [] => Sh.fail "usage: printf format [arg ...]"
  | format :: args => do
    let (prints, status) := Programs.Printf.print .builtin (← Sh.place) format args
    prints.forM fun
      | .out text => Sh.print text
      | .err text => Sh.complain text
    return status

-- The time that the shell and its children have used up.
def times : Sh Nat := do
  let line := "0m0.000000s 0m0.000000s\n"
  Sh.print (line ++ line)
  return 0

-- Limits.

-- A limit has a letter, a name, and a number if it limits anything.
def limits : List (Char × String × Option Nat) := [
  ('t', "time(seconds)", none),
  ('f', "file(blocks)", none),
  ('d', "data(kbytes)", none),
  ('s', "stack(kbytes)", some 8192),
  ('c', "coredump(blocks)", some 0),
  ('m', "memory(kbytes)", none),
  ('l', "locked memory(kbytes)", some 8192),
  ('p', "process", none),
  ('n', "nofiles", some 1024),
  ('v', "vmemory(kbytes)", none),
  ('w', "locks", none),
  ('r', "rtprio", some 0)]

def limitText (limit : Option Nat) : String :=
  limit.elim "unlimited" Nat.repr

-- The command that shows limits. They cannot be changed.
def ulimit (args : List String) : Sh Nat := do
  let letters := ['H', 'S', 'a'] ++ limits.map (·.1)
  let (found, rest) ← Sh.options (letters.map fun c => (c, false)) args
  let all := found.any (·.1 == 'a')
  match rest with
  | [] =>
    if all then
      Sh.print (String.join (limits.map fun (_, name, limit) =>
        name ++ String.ofList (List.replicate (20 - name.length) ' ') ++ " " ++ limitText limit ++ "\n"))
    else
      let letter := ((found.filter fun o => o.1 != 'H' && o.1 != 'S').getLast?.map (·.1)).getD 'f'
      Sh.print (limitText ((limits.lookup letter).bind (·.2)) ++ "\n")
  | text :: more =>
    if all || !more.isEmpty then Sh.fail "too many arguments"
    if text ≠ "unlimited" && !text.toList.all Char.isDigit then Sh.fail "bad number"
  return 0

end TermBridge.Shell.Builtins
