import TermBridge.Shell.Children
import TermBridge.Shell.Expansion

namespace TermBridge.Shell

namespace Redirecting

open Expansion (Substitute)

-- Where a redirection leads, once its target has been expanded.
inductive Goal where
  | file (direction : Direction) (path : String)
  | descriptor (n : Option Nat)
  | document (number : Nat)
  deriving DecidableEq, Repr

structure Step where
  descriptor : Nat
  goal : Goal
  deriving DecidableEq, Repr

-- A descriptor, or that there shall be none.
def descriptor? (text : String) : Option (Option Nat) :=
  match text.toList with
  | [c] => if c.isDigit then some (some (c.toNat - '0'.toNat)) else if c = '-' then some none else none
  | _ => none

def prepare (substitute : Substitute) (r : Redirection) : Sh Step := do
  let goal ← match r.direction with
    | .here number => pure (Goal.document number)
    | .duplicateInput | .duplicateOutput => do
      let fields ← Expansion.fields substitute r.target
      match fields.head?.bind fun f => descriptor? f.text with
      | some n => pure (Goal.descriptor n)
      | none => Sh.fail "Syntax error: Bad fd number"
    | direction => do
      pure (Goal.file direction (← Expansion.text substitute { tilde := true } r.target))
  return ⟨r.descriptor, goal⟩

-- Opening.

def cannot {α : Type} (verb path : String) (e : Errno) (p : Sh.Purpose) : Sh α :=
  Sh.fail ("cannot " ++ verb ++ " " ++ path ++ ": " ++ Sh.reason e p)

def openWith (path : String) (mode : Unix.OpenMode) (verb : String) (p : Sh.Purpose) : Sh Nat := do
  match ← Sh.call (.openFile path mode) with
  | .ok n => return n
  | .error e => cannot verb path e p

def toWrite : Unix.OpenMode := { writes := true, creates := true }

-- Opens a file for output that may not be there as a file yet.
def openNew (path : String) : Sh Nat := do
  match ← Sh.call (.status path true) with
  | .error _ => openWith path { toWrite with exclusive := true } "create" .toWrite
  | .ok status =>
    if status.kind = .regular then cannot "create" path Errno.exists_ .toWrite
    else openWith path { writes := true } "create" .toWrite

def openPath (direction : Direction) (path : String) : Sh Nat := do
  match direction with
  | .from_ => openWith path { reads := true } "open" .toRead
  | .both => openWith path { toWrite with reads := true } "create" .toWrite
  | .append => openWith path { toWrite with appends := true } "create" .toWrite
  | .to =>
    if ← Sh.has 'C' then openNew path
    else openWith path { toWrite with truncates := true } "create" .toWrite
  | _ => openWith path { toWrite with truncates := true } "create" .toWrite

-- Texts up to this length are put into a pipe at once, and others by a child.
def pipeSize : Nat := 4096

def ignoredByWriter : List Nat :=
  [Signals.interrupt, Signals.quit, Signals.hangup, Signals.keyboardStop]

def openDocument (substitute : Substitute) (number : Nat) : Sh Nat := do
  let w := (← get).documents.getD number []
  let text ← Expansion.text substitute { quoted := true } w
  match ← Sh.call .makePipe with
  | .error _ => Sh.fail "Pipe call failed"
  | .ok (reader, writer) => do
    if text.length ≤ pipeSize then
      if !text.isEmpty then
        let _ ← Sh.call (.write writer text.toList)
    else
      let _ ← Sh.startProcess do
        Sh.begin_ .apart none
        let _ ← Sh.call (.close reader)
        ignoredByWriter.forM fun n => do
          let _ ← Sh.call (.arrange n .ignored)
        let _ ← Sh.call (.arrange Signals.brokenPipe .standard)
        let _ ← Sh.call (.write writer text.toList)
        modify fun s => { s with status := 0 }
    let _ ← Sh.call (.close writer)
    return reader

-- The descriptor that is to take the place of another one, and whether it is closed afterwards. The
-- place may also stay empty. There is nothing to do for a descriptor that leads to itself.
def source? (substitute : Substitute) (s : Step) : Sh (Option (Option Nat × Bool)) := do
  match s.goal with
  | .file direction path => return some (some (← openPath direction path), true)
  | .document number => return some (some (← openDocument substitute number), true)
  | .descriptor n => return if n = some s.descriptor then none else some (n, false)

-- Putting away.

-- Descriptors are kept from this number on.
def leastKept : Nat := 10

-- Puts a descriptor away, unless that was done before for the command at hand.
def keep (descriptor : Nat) : Sh Unit := do
  match (← get).kept with
  | [] => return ()
  | front :: rest =>
    if front.any (·.1 == descriptor) then return ()
    else do
      let kept ← match ← Sh.call (.duplicate descriptor leastKept true) with
        | .ok n => do
          let _ ← Sh.call (.close descriptor)
          pure (some n)
        | .error _ => pure none
      modify fun s => { s with kept := ((descriptor, kept) :: front) :: rest }

-- Notes that a descriptor was not open.
def noteClosed (descriptor : Nat) : Sh Unit :=
  modify fun s => { s with kept := match s.kept with
    | front :: rest =>
      (if front.any (·.1 == descriptor) then front else (descriptor, none) :: front) :: rest
    | [] => [] }

def fill (descriptor source : Nat) (closes : Bool) : Sh Unit := do
  let result ← Sh.call (.place source descriptor)
  if closes then
    let _ ← Sh.call (.close source)
  match result with
  | .ok () => return ()
  | .error e => Sh.fail (String.ofList (Numeral.decimal source) ++ ": " ++ e.message)

def apply (substitute : Substitute) (puts : Bool) (s : Step) : Sh Unit := do
  match ← source? substitute s with
  | none => return ()
  | some (source, closes) =>
    if source = some s.descriptor then
      if puts then noteClosed s.descriptor
    else do
      if puts then keep s.descriptor
      match source with
      | some n => fill s.descriptor n closes
      | none =>
        let _ ← Sh.call (.close s.descriptor)

-- Redirects for good.
def redirect (substitute : Substitute) (steps : List Step) : Sh Unit :=
  steps.forM (apply substitute false)

-- Redirects until the descriptors are put back. Whether it went well is the result.
def redirectForNow (substitute : Substitute) (steps : List Step) : Sh Bool := do
  modify fun s => { s with kept := [] :: s.kept }
  match ← Sh.attempt (steps.forM (apply substitute true)) with
  | .ok () => return true
  | .error .error => return false
  | .error e => Sh.raise e

-- Puts back what was put away for the command at hand, or lets the redirections stay.
def putBack (stays : Bool) : Sh Unit := do
  match (← get).kept with
  | [] => return ()
  | front :: rest => do
    modify fun s => { s with kept := rest }
    front.reverse.forM fun (descriptor, kept) => do
      match kept with
      | some n => do
        if !stays then
          let _ ← Sh.call (.place n descriptor)
        let _ ← Sh.call (.close n)
      | none =>
        if !stays then
          let _ ← Sh.call (.close descriptor)

-- Puts everything back, up to a number of commands.
def unwind (depth : Nat) : Nat → Sh Unit
  | 0 => return ()
  | fuel + 1 => do
    if depth < (← get).kept.length then
      putBack false
      unwind depth fuel

end Redirecting

end TermBridge.Shell
