import TermBridge.Shell.Token

namespace TermBridge.Shell

-- A text that belongs to a redirection and begins on the next line, up to a line that is the delimiter.
structure Pending where
  number : Nat
  delimiter : List Char
  stripsTabs : Bool
  -- Nothing in the text is replaced.
  literal : Bool
  deriving DecidableEq, Repr

structure Reader where
  rest : List Char
  -- Nothing comes after `rest`.
  complete : Bool := true
  line : Nat := 1
  aliases : List (String × String) := []
  -- The aliases that are being read, each with what follows it, and whether it ends with a blank.
  outer : List (String × List Char × Bool) := []
  -- An alias that ended with a blank lets the next word be an alias, too.
  aliasNext : Bool := false
  -- The last token, which is to be read once more.
  pushedBack : Bool := false
  token : Token := .newline
  word : Word := []
  quoted : Bool := false
  redirection : Redirection := .mk 0 .from_ []
  pending : List Pending := []
  -- The texts that redirections refer to by number.
  documents : Array Word := #[]

inductive Stop where
  | wrong (line : Nat) (text : String)
  -- The text ends in the middle, after so many lines, and there can be more of it.
  | incomplete (line : Nat)
  deriving DecidableEq, Repr

abbrev Parser := StateT Reader (Except Stop)

namespace Parser

-- More steps than any text has use for.
def limit : Nat := 1000000000

def fail {α : Type} (text : String) : Parser α := do
  throw (.wrong (← get).line ("Syntax error: " ++ text))

-- The last token has no place here, where perhaps another one was expected.
def unexpected {α : Type} (expected : Option Token) : Parser α := do
  let found := (← get).token.text ++ " unexpected"
  match expected with
  | none => fail found
  | some t => fail (found ++ " (expecting " ++ t.text ++ ")")

-- Goes on behind an alias whose text is used up.
def leaveAliases : List (String × List Char × Bool) → Bool →
    List Char × List (String × List Char × Bool) × Bool
  | [], again => ([], [], again)
  | (_, rest, blank) :: outer, again =>
    if rest.isEmpty then leaveAliases outer (again || blank) else (rest, outer, again || blank)

-- The next character, which is none at the end of the text.
def next : Parser (Option Char) := fun r =>
  match r.rest with
  | c :: rest => .ok (some c, { r with rest := rest })
  | [] =>
    let (rest, outer, again) := leaveAliases r.outer r.aliasNext
    match rest with
    | c :: rest => .ok (some c, { r with rest := rest, outer := outer, aliasNext := again })
    | [] =>
      if r.complete then .ok (none, { r with outer := outer, aliasNext := again })
      else .error (.incomplete r.line)

def peek : Parser (Option Char) := fun r =>
  match next r with
  | .ok (c, _) => .ok (c, r)
  | .error stop => .error stop

def countLine : Parser Unit :=
  modify fun r => { r with line := r.line + 1 }

-- Leaves out a newline behind a backslash. The fuel bounds how many there are.
def skipJoints : Nat → Parser Unit
  | 0 => return ()
  | fuel + 1 => fun r =>
    match next r with
    | .ok (some '\\', r') =>
      match next r' with
      | .ok (some '\n', r') => skipJoints fuel { r' with line := r'.line + 1 }
      | .ok _ => .ok ((), r)
      | .error stop => .error stop
    | .ok _ => .ok ((), r)
    | .error stop => .error stop

-- The next character, where lines can be joined by a backslash.
def nextJoined : Parser (Option Char) := do
  skipJoints limit
  next

def peekJoined : Parser (Option Char) := do
  skipJoints limit
  peek

-- Takes the next character if it is a certain one.
def takeIf (c : Char) : Parser Bool := do
  if (← peekJoined) = some c then
    let _ ← next
    return true
  else return false

def takeWhile (belongs : Char → Bool) : Nat → List Char → Parser (List Char)
  | 0, taken => return taken.reverse
  | fuel + 1, taken => do
    match ← peekJoined with
    | some c =>
      if belongs c then
        let _ ← next
        takeWhile belongs fuel (c :: taken)
      else return taken.reverse
    | none => return taken.reverse

-- Has the last token read once more.
def pushBack : Parser Unit :=
  modify fun r => { r with pushedBack := true }

def enterAlias (name value : String) : Parser Unit :=
  modify fun r =>
    let text := value.toList
    let blank := text.getLast?.any fun c => c == ' ' || c == '\t'
    { r with rest := text, outer := (name, r.rest, blank) :: r.outer }

-- The alias that a word stands for, unless it is being replaced already.
def alias? (name : String) : Parser (Option String) := do
  let r ← get
  if r.outer.any (·.1 == name) then return none
  else return r.aliases.lookup name

end Parser

end TermBridge.Shell
