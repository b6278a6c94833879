import TermBridge.Programs.Search
import TermBridge.Shell.Assign

namespace TermBridge.Shell

structure Builtin where
  name : String
  -- What goes wrong in it ends a shell without a user, and what is assigned in front of it stays.
  special : Bool := false
  -- Its arguments can be assignments.
  assigns : Bool := false
  -- It is a builtin command wherever the search path leads.
  everywhere : Bool := true
  deriving DecidableEq, Repr

namespace Builtin

def specials : List Builtin :=
  [".", ":", "break", "continue", "eval", "exec", "exit", "return", "set", "shift", "times", "trap",
    "unset"].map fun name => { name := name, special := true }

def declarations : List Builtin :=
  ["export", "local", "readonly"].map fun name => { name := name, special := true, assigns := true }

def regulars : List Builtin :=
  ["bg", "cd", "chdir", "command", "false", "fg", "getopts", "jobs", "kill", "read", "true", "umask",
    "unalias", "wait"].map fun name => { name := name }

def others : List Builtin :=
  ["[", "echo", "hash", "printf", "pwd", "test", "type", "ulimit"].map fun name =>
    { name := name, everywhere := false }

def table : List Builtin :=
  specials ++ declarations ++ regulars ++ others ++ [{ name := "alias", assigns := true }]

def find? (name : String) : Option Builtin :=
  table.find? (·.name == name)

def isSpecial (name : String) : Bool :=
  (find? name).any (·.special)

end Builtin

inductive Target where
  | builtin (b : Builtin)
  | function (f : FunctionBody)
  -- A program is looked for from this directory of the search path on.
  | program (index : Nat)
  | unknown

namespace Lookup

-- Searched where a standard path is asked for.
def standardPath : String := "/usr/local/sbin:/usr/local/bin:/usr/sbin:/usr/bin:/sbin:/bin"

def directories (path : String) : List String :=
  path.splitOn ":"

def candidate (directory name : String) : String :=
  if directory.isEmpty then name else directory ++ "/" ++ name

def searchPath : Sh String := do
  return (← Sh.lookup Sh.searchPathName).getD ""

def executable (mode : Nat) : Bool :=
  mode &&& 0o111 ≠ 0

-- The first directory with a program of that name, or the reason why there is none.
def inDirectories (name : String) : Nat → Errno → List String → Sh (Except Errno Nat)
  | _, e, [] => return .error e
  | index, e, directory :: rest => do
    match ← Sh.call (.status (candidate directory name) true) with
    | .error e' =>
      let isAbsent := e' = Errno.noEntry || e' = Errno.notDirectory
      inDirectories name (index + 1) (if isAbsent then e else e') rest
    | .ok status =>
      if status.kind = .regular && executable status.mode then return .ok index
      else inDirectories name (index + 1) Errno.accessDenied rest

def remember (name : String) (index : Nat) : Sh Unit :=
  modify fun s =>
    if s.found.any (·.1 == name) then
      { s with found := s.found.map fun f => if f.1 == name then (name, index, false) else f }
    else { s with found := s.found ++ [(name, index, false)] }

def forget (name : String) : Sh Unit :=
  modify fun s => { s with found := s.found.filter (·.1 != name) }

-- Looks for a program, where one that was found before is not looked for again.
def program? (name : String) (path : Option String) : Sh (Except Errno Nat) := do
  match path with
  | some path => inDirectories name 0 Errno.noEntry (directories path)
  | none =>
    match (← get).found.lookup name with
    | some (index, false) => return .ok index
    | _ => do
      match ← inDirectories name 0 Errno.noEntry (directories (← searchPath)) with
      | .ok index => do
        remember name index
        return .ok index
      | .error e => do
        forget name
        return .error e

-- Functions and builtin commands come before programs. A path is a program in any case.
def early (name : String) (functions : Bool) : Sh (Option Target) := do
  if name.toList.contains '/' then return some (.program 0)
  else
    let s ← get
    match if functions then s.functions.lookup name else none with
    | some f => return some (.function f)
    | none => return (Builtin.find? name).map .builtin

-- Looks a name up and complains if it means nothing.
def find (name : String) (functions : Bool) (path : Option String) : Sh Target := do
  match ← early name functions with
  | some target => return target
  | none =>
    match ← program? name path with
    | .ok index => return .program index
    | .error e => do
      Sh.warn (name ++ ": " ++ Sh.reason e .toRun)
      return .unknown

-- The file that a script's name stands for. It does not have to be executable.
def script (name : String) : Sh String := do
  if name.toList.contains '/' then return name
  else through (directories (← searchPath))
where
  through : List String → Sh String
    | [] => Sh.fail (name ++ ": not found")
    | directory :: rest => do
      let path := candidate directory name
      match ← Sh.call (.status path true) with
      | .error _ => through rest
      | .ok status => if status.kind = .regular then return path else through rest

-- Running programs.

def tryAll (name : String) (argv environment : List String) (e : Errno) :
    List String → Sh Errno
  | [] => return e
  | directory :: rest => do
    let e' : Errno ← Sh.call (.execute (candidate directory name) argv environment)
    let isAbsent := e' = Errno.noEntry || e' = Errno.notDirectory
    tryAll name argv environment (if isAbsent then e else e') rest

-- Becomes a program, and ends if that is not possible.
def become {α : Type} (argv : List String) (path : Option String) (index : Nat) : Sh α := do
  let name := argv.headD ""
  let environment := (← get).bindings.environment
  let e ← if name.toList.contains '/' then
      (Sh.call (.execute name argv environment) : Sh Errno)
    else
      tryAll name argv environment Errno.noEntry
        ((directories (path.getD (← searchPath))).drop index)
  let isMissing := [Errno.tooManyLinks, Errno.nameTooLong, Errno.noEntry, Errno.notDirectory].contains e
  Sh.abandon .ended (if isMissing then 127 else 126) (name ++ ": " ++ Sh.reason e .toRun)

end Lookup

end TermBridge.Shell
