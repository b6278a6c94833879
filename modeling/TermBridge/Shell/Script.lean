import TermBridge.Shell.Grammar
import TermBridge.Shell.Lookup
import TermBridge.Shell.Redirecting

namespace TermBridge.Shell

structure Source where
  reader : Reader
  descriptor : Option Nat := none
  -- What was read from the descriptor and is not in the reader yet.
  unread : List Char := []

namespace Source

open Expansion (Substitute)

def ofText (text : String) : Source :=
  { reader := { rest := text.toList } }

def ofDescriptor (n : Nat) : Source :=
  { reader := { rest := [], complete := false }, descriptor := some n }

def atEnd (s : Source) : Bool :=
  Grammar.isAtEnd s.reader

-- Text that is expanded as if it stood between double quotes. One that cannot be read stays as it is.
def expandText (substitute : Substitute) (text : String) : Sh String := do
  let ctx := { Grammar.context Builtin.isSpecial with document := true }
  let s ← get
  let reader : Reader := { rest := text.toList, documents := s.documents }
  let read : Parser Word := do
    let scan ← WordReader.scan ctx none Parser.limit false (.start .double)
    WordReader.check ctx scan
    return scan.items.reverse
  let expanded ← Sh.attempt do
    match read reader with
    | .error (.wrong line complaint) => do
      modify fun s => { s with line := line }
      Sh.fail complaint
    | .error (.incomplete _) => return text
    | .ok (w, reader) => do
      modify fun s => { s with documents := reader.documents }
      Expansion.text substitute { quoted := true } w
  return expanded.toOption.getD text

-- The text of a prompt, which a variable names.
def prompt (substitute : Substitute) (name : String) : Sh Unit := do
  let text ← expandText substitute ((← Sh.lookup name).getD "")
  if !text.isEmpty then Sh.complain text

def blockSize : Nat := 8191

def readBlock (descriptor : Nat) : Nat → Sh (List Char)
  | 0 => return []
  | fuel + 1 => do
    match ← Sh.call (.read descriptor blockSize) with
    | .ok text => return text
    | .error e =>
      if e = Errno.interrupted then
        Sh.checkInterrupt
        readBlock descriptor fuel
      else return []

-- The next line, which is empty at the end of the input.
def nextLine (s : Source) (descriptor : Nat) : Sh (List Char × Source) := do
  let unread ← if s.unread.isEmpty then readBlock descriptor Sh.limit else pure s.unread
  let line := unread.takeWhile (· != '\n')
  let rest := unread.drop line.length
  let line := line ++ rest.take 1
  if (← Sh.has 'v') && !line.isEmpty then Sh.complain (String.ofList line)
  return (line.filter (· != '\x00'), { s with unread := rest.drop 1 })

-- Reads the commands of one line. `asked` is how many lines had been counted when more text was asked
-- for. A prompt is for a new line, and there is none if the text just goes on.
def readFrom (substitute : Substitute) (prompts : Bool) : Nat → Option Nat → Source →
    Sh (Grammar.Found × Source)
  | 0, _, s => return (.ended, s)
  | fuel + 1, asked, s => do
    let state ← get
    let reader := { s.reader with aliases := state.aliases, documents := state.documents }
    match Grammar.readLine Builtin.isSpecial reader, s.descriptor with
    | .ok (found, reader), _ => do
      set { state with documents := reader.documents }
      return (found, { s with reader := reader })
    | .error (.wrong line text), _ => do
      set { state with line := line }
      Sh.fail text
    | .error (.incomplete line), some descriptor => do
      if prompts && asked.all (· < line) then
        prompt substitute (if asked.isNone then "PS1" else "PS2")
      let (more, s) ← nextLine s descriptor
      let reader := if more.isEmpty then { s.reader with complete := true }
        else { s.reader with rest := s.reader.rest ++ more }
      readFrom substitute prompts fuel (some line) { s with reader := reader }
    | .error (.incomplete _), none => return (.ended, s)

def read (substitute : Substitute) (prompts : Bool) (s : Source) : Sh (Grammar.Found × Source) :=
  readFrom substitute prompts Sh.limit none
    (if s.descriptor.isSome then { s with reader := { s.reader with complete := false } } else s)

end Source

end TermBridge.Shell
