import TermBridge.Shell.WordReader

namespace TermBridge.Shell

namespace Grammar

open TermBridge.Shell.Parser

-- Which tokens are looked out for: newlines that do not matter, reserved words and aliases.
structure Watch where
  newlines : Bool := false
  reserved : Bool := false
  aliases : Bool := false
  deriving DecidableEq, Repr

def Watch.all : Watch := ⟨true, true, true⟩

def Watch.sameLine : Watch := ⟨false, true, true⟩

def skipComment : Nat → Parser Unit
  | 0 => return ()
  | fuel + 1 => do
    match ← peek with
    | none | some '\n' => return ()
    | some _ =>
      let _ ← next
      skipComment fuel

-- A mark that may be doubled.
def doubled (c : Char) (two one : Token) : Parser Token := do
  return if ← takeIf c then two else one

-- Reads a token from the text.
def freshToken (ctx : Context) : Nat → Parser Token
  | 0 => return .endOfFile
  | fuel + 1 => do
    match ← peekJoined with
    | none => return .endOfFile
    | some c =>
      let mark (read : Parser Token) : Parser Token := do
        let _ ← next
        read
      match c with
      | ' ' | '\t' => do
        let _ ← next
        freshToken ctx fuel
      | '#' => do
        skipComment limit
        freshToken ctx fuel
      | '\n' => mark (do countLine; return .newline)
      | '&' => mark (doubled '&' .andAnd .ampersand)
      | '|' => mark (doubled '|' .orOr .pipe)
      | ';' => mark (doubled ';' .doubleSemicolon .semicolon)
      | '(' => mark (return .leftParenthesis)
      | ')' => mark (return .rightParenthesis)
      | _ => WordReader.read ctx

def anyToken (ctx : Context) : Parser Token := do
  let r ← get
  if r.pushedBack then
    set { r with pushedBack := false }
    return r.token
  else
    let t ← freshToken ctx limit
    modify fun r => { r with token := t }
    return t

def documents (ctx : Context) : Parser Unit := do
  let pending := (← get).pending
  modify fun r => { r with pending := [] }
  WordReader.readDocuments ctx pending

def skipNewlines (ctx : Context) : Nat → Token → Parser Token
  | 0, t => return t
  | fuel + 1, t => do
    if t ≠ .newline then return t
    else
      documents ctx
      skipNewlines ctx fuel (← anyToken ctx)

-- The plain text of the last token, if it is a word without quotes.
def plainWord? (r : Reader) (t : Token) : Option String :=
  if t = .word && !r.quoted then Word.plain? r.word else none

-- Reads a token, and replaces aliases.
def tokenFrom (ctx : Context) (watch : Watch) : Nat → Parser Token
  | 0 => return .endOfFile
  | fuel + 1 => do
    let t ← anyToken ctx
    let t ← if watch.newlines then skipNewlines ctx limit t else pure t
    let aliases := watch.aliases || (← get).aliasNext
    modify fun r => { r with aliasNext := false }
    match plainWord? (← get) t with
    | none => return t
    | some name =>
      if watch.reserved && Token.reservedWords.contains name then
        modify fun r => { r with token := .reserved name }
        return .reserved name
      else if !aliases then return t
      else
        match ← alias? name with
        | none => return t
        | some value =>
          if !value.isEmpty then enterAlias name value
          tokenFrom ctx watch fuel

def token (ctx : Context) (watch : Watch) : Parser Token :=
  tokenFrom ctx watch limit

def reserved (name : String) : Token :=
  .reserved name

def expect (ctx : Context) (watch : Watch) (t : Token) : Parser Unit := do
  if (← token ctx watch) ≠ t then unexpected (some t)

-- Redirections.

def announce (number : Nat) (delimiter : List Char) (literal : Bool) : Parser Unit :=
  modify fun r => { r with pending := r.pending.map fun p =>
    if p.number = number then { p with delimiter := delimiter, literal := literal } else p }

-- The target of a redirection whose sign was the last token.
def target (ctx : Context) : Parser Redirection := do
  let r := (← get).redirection
  match r.direction with
  | .here number => do
    if (← token { ctx with literal := true } {}) ≠ .word then unexpected none
    let w ← get
    announce number (Word.text w.word).toList w.quoted
    return r
  | _ => do
    if (← token ctx {}) ≠ .word then unexpected none
    return .mk r.descriptor r.direction (← get).word

def redirections (ctx : Context) : Nat → List Redirection → Parser (List Redirection)
  | 0, rs => return rs.reverse
  | fuel + 1, rs => do
    if (← token ctx .sameLine) = .redirection then redirections ctx fuel ((← target ctx) :: rs)
    else
      pushBack
      return rs.reverse

-- Simple commands and functions.

structure Simple where
  assignments : List Word := []
  words : List Word := []
  redirections : List Redirection := []

def Simple.command (s : Simple) (line : Nat) : Command :=
  .simple line s.assignments.reverse s.words.reverse s.redirections.reverse

-- A list of commands: one that ends with its line, one within another command, or one that may be
-- empty.
inductive Extent where
  | line
  | compound
  | optional
  deriving DecidableEq, Repr

inductive Goal where
  | command
  | list (e : Extent)
  deriving DecidableEq, Repr

-- What reading has come to: nothing follows any more, or there are commands, or none on this line.
inductive Found where
  | ended
  | commands (c : Option Command)

-- How parts of commands are read, and which names functions cannot have.
structure Scope where
  inner : Goal → Parser Found
  special : String → Bool

namespace Scope

def list (s : Scope) (e : Extent) : Parser (Option Command) := do
  match ← s.inner (.list e) with
  | .ended => return none
  | .commands c => return c

def command (s : Scope) : Parser Command := do
  match ← s.inner .command with
  | .commands (some c) => return c
  | _ => unexpected none

def context (s : Scope) : Context where
  list := s.list .optional

end Scope

def function (s : Scope) (w : Word) : Parser Command := do
  expect s.context {} .rightParenthesis
  let name := (Word.plain? w).getD ""
  if !Word.isName name || s.special name then fail "Bad function name"
  let line := (← get).line
  let _ ← token s.context .all
  pushBack
  return .function line name (← s.command)

def simple (s : Scope) (line : Nat) : Nat → Simple → Parser Command
  | 0, c => return c.command line
  | fuel + 1, c => do
    match ← token s.context { aliases := c.words.isEmpty } with
    | .word => do
      let w := (← get).word
      if c.words.isEmpty && (Word.assigned? w).isSome then
        simple s line fuel { c with assignments := w :: c.assignments }
      else simple s line fuel { c with words := w :: c.words }
    | .redirection => do
      let r ← target s.context
      simple s line fuel { c with redirections := r :: c.redirections }
    | .leftParenthesis =>
      match c with
      | ⟨[], [w], []⟩ => function s w
      | _ => do
        pushBack
        return c.command line
    | _ => do
      pushBack
      return c.command line

-- Compound commands.

def branches (s : Scope) : Nat → Parser Command
  | 0 => unexpected none
  | fuel + 1 => do
    let test ← s.list .compound
    expect s.context {} (.reserved "then")
    let yes ← s.list .compound
    match ← token s.context {} with
    | .reserved "elif" => return .branch test yes (some (← branches s fuel))
    | .reserved "else" => return .branch test yes (← s.list .compound)
    | _ => do
      pushBack
      return .branch test yes none

def loop (s : Scope) (expected : Bool) : Parser Command := do
  let test ← s.list .compound
  expect s.context {} (.reserved "do")
  return .repeated expected test (← s.list .compound)

def words (ctx : Context) : Nat → List Word → Parser (List Word)
  | 0, ws => return ws.reverse
  | fuel + 1, ws => do
    if (← token ctx {}) = .word then words ctx fuel ((← get).word :: ws) else return ws.reverse

def forEach (s : Scope) (line : Nat) : Parser Command := do
  let t ← token s.context {}
  let name := (plainWord? (← get) t).getD ""
  if !Word.isName name then fail "Bad for loop variable"
  let given ← do
    if (← token s.context .all) = .reserved "in" then
      let ws ← words s.context limit []
      let t := (← get).token
      if t ≠ .newline && t ≠ .semicolon then unexpected none
      pure ws
    else
      if (← get).token ≠ .semicolon then pushBack
      pure [Word.allParameters]
  expect s.context .all (.reserved "do")
  return .forEach line name given (← s.list .compound)

def patterns (ctx : Context) : Nat → List Word → Parser (List Word)
  | 0, ws => return ws.reverse
  | fuel + 1, ws => do
    let ws := (← get).word :: ws
    if (← token ctx {}) = .pipe then
      let _ ← token ctx {}
      patterns ctx fuel ws
    else return ws.reverse

def cases (s : Scope) : Nat → List (List Word × Option Command) →
    Parser (List (List Word × Option Command))
  | 0, cs => return cs.reverse
  | fuel + 1, cs => do
    let watch : Watch := ⟨true, true, false⟩
    let t ← token s.context watch
    if t = .reserved "esac" then return cs.reverse
    else do
      if t = .leftParenthesis then
        let _ ← token s.context {}
      let ps ← patterns s.context limit []
      if (← get).token ≠ .rightParenthesis then unexpected (some .rightParenthesis)
      let c ← s.list .optional
      let cs := (ps, c) :: cs
      let t ← token s.context watch
      if t = .reserved "esac" then return cs.reverse
      else if t = .doubleSemicolon then cases s fuel cs
      else unexpected (some .doubleSemicolon)

def choose (s : Scope) (line : Nat) : Parser Command := do
  expect s.context {} .word
  let w := (← get).word
  expect s.context .all (.reserved "in")
  return .choose line w (← cases s limit [])

def withRedirections (line : Nat) (rs : List Redirection) (c : Command) : Command :=
  if rs.isEmpty then c
  else
    match c with
    | .subshell line body _ => .subshell line body rs
    | c => .redirected line c rs

-- A command that begins with a token, and what it has to end with.
def compound? (s : Scope) (line : Nat) (t : Token) : Option (Parser Command × Option Token) :=
  match t with
  | .reserved "if" => some (branches s limit, some (.reserved "fi"))
  | .reserved "while" => some (loop s true, some (.reserved "done"))
  | .reserved "until" => some (loop s false, some (.reserved "done"))
  | .reserved "for" => some (forEach s line, some (.reserved "done"))
  | .reserved "case" => some (choose s line, none)
  | .leftParenthesis =>
    some (do return .subshell line (← s.list .compound) [], some .rightParenthesis)
  | .reserved name =>
    if name = Token.openBrace then
      some (do return (← s.list .compound).getD default, some (.reserved Token.closeBrace))
    else none
  | _ => none

def command (s : Scope) : Parser Command := do
  let line := (← get).line
  let t ← token s.context {}
  match compound? s line t with
  | some (read, ending) => do
    let c ← read
    match ending with
    | some t => expect s.context {} t
    | none => pure ()
    return withRedirections line (← redirections s.context limit []) c
  | none =>
    if t = .word || t = .redirection then
      pushBack
      simple s line limit {}
    else unexpected none

-- Pipelines and lists. The token in front of a command has been read already, with the right watch.

def pipeParts (s : Scope) : Nat → List Command → Parser (List Command)
  | 0, cs => return cs.reverse
  | fuel + 1, cs => do
    if (← token s.context {}) = .pipe then
      let _ ← token s.context .all
      pushBack
      pipeParts s fuel ((← s.command) :: cs)
    else
      pushBack
      return cs.reverse

def pipeline (s : Scope) : Parser Command := do
  let negated := (← token s.context {}) = .reserved "!"
  if negated then
    let _ ← token s.context .sameLine
  pushBack
  let first ← s.command
  let c := match ← pipeParts s limit [first] with
    | [c] => c
    | cs => .pipeline false cs
  return if negated then .negated c else c

def chain (s : Scope) : Nat → Command → Parser Command
  | 0, c => return c
  | fuel + 1, c => do
    let t ← token s.context {}
    if t = .andAnd || t = .orOr then
      let _ ← token s.context .all
      pushBack
      let next ← pipeline s
      chain s fuel (if t = .andAnd then .both c next else .either c next)
    else
      pushBack
      return c

def inBackground (c : Command) : Command :=
  match c with
  | .pipeline _ cs => .pipeline true cs
  | .redirected line body rs => .background line body rs
  | c => .background 0 c []

def append (front : Option Command) (c : Command) : Command :=
  match front with
  | none => c
  | some f => .sequence f c

def listFrom (s : Scope) (extent : Extent) : Nat → Option Command → Parser Found
  | 0, front => return .commands front
  | fuel + 1, front => do
    match ← token s.context ⟨extent ≠ .line, true, true⟩ with
    | .newline => do
      documents s.context
      return .commands front
    | .endOfFile => do
      documents s.context
      modify fun r => { r with pushedBack := true, token := .endOfFile }
      return if extent = .line && front.isNone then .ended else .commands front
    | t => do
      pushBack
      if (extent = .optional || (extent = .compound && front.isSome)) && t.endsList then
        return .commands front
      else do
        let c ← chain s limit (← pipeline s)
        let t ← token s.context {}
        let front := some (append front (if t = .ampersand then inBackground c else c))
        match t with
        | .newline | .endOfFile => do
          pushBack
          listFrom s extent fuel front
        | .ampersand | .semicolon => listFrom s extent fuel front
        | _ =>
          if extent = .line then unexpected none
          else do
            pushBack
            return .commands front

-- The fuel bounds how deep commands are within each other.
def readAt (special : String → Bool) : Nat → Goal → Parser Found
  | 0, _ => fun r => .error (.incomplete r.line)
  | fuel + 1, goal => fun r =>
    let s : Scope := ⟨fun goal r => readAt special fuel goal r, special⟩
    match goal with
    | .command => (do return .commands (some (← command s)) : Parser Found) r
    | .list e => listFrom s e limit none r

-- How words are read that stand on their own.
def context (special : String → Bool) : Context :=
  Scope.context ⟨readAt special limit, special⟩

def readLine (special : String → Bool) (r : Reader) : Except Stop (Found × Reader) :=
  readAt special limit (.list .line) { r with pushedBack := false, pending := [], aliasNext := false }

-- Nothing follows what has been read last.
def isAtEnd (r : Reader) : Bool :=
  r.pushedBack && r.token = .endOfFile

end Grammar

end TermBridge.Shell
