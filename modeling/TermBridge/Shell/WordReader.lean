import TermBridge.Shell.Reader

namespace TermBridge.Shell

inductive Quoting where
  | none
  | single
  | double
  | arithmetic
  deriving DecidableEq, Repr

-- One level of the nesting.
structure Level where
  quoting : Quoting
  doubleQuoted : Bool := false
  -- Parameters whose operands are open, and those among them that are within double quotes.
  open_ : Nat := 0
  openQuoted : Nat := 0
  -- Double quotes are open within an operand.
  innerQuotes : Bool := false
  -- Open parentheses of an arithmetic expression.
  parentheses : Nat := 0
  -- The level has been entered for an operand.
  forOperand : Bool := false
  deriving DecidableEq, Repr

structure Scan where
  -- Newest first.
  items : List Item := []
  quoted : Bool := false
  level : Level
  outer : List Level := []

namespace Scan

def put (s : Scan) (i : Item) : Scan :=
  { s with items := i :: s.items }

def putChar (s : Scan) (c : Char) : Scan :=
  s.put (.char c)

def enter (s : Scan) (l : Level) : Scan :=
  { s with level := l, outer := s.level :: s.outer }

def leave (s : Scan) : Scan :=
  match s.outer with
  | l :: outer => { s with level := l, outer := outer }
  | [] => s

def set (s : Scan) (l : Level) : Scan :=
  { s with level := l }

def start (quoting : Quoting) : Scan where
  level := { quoting := quoting, doubleQuoted := quoting = .double }

end Scan

inductive Role where
  | plain
  | newline
  | backslash
  | singleQuote
  | doubleQuote
  | closingQuote
  | backquote
  | dollar
  | closingBrace
  -- Protected, since it would mean something otherwise.
  | protected_
  | leftParenthesis
  | rightParenthesis
  | separator
  deriving DecidableEq, Repr

def isPatternChar (c : Char) : Bool :=
  "!*?[=~:/-]".toList.contains c

def Quoting.role (q : Quoting) (c : Char) : Role :=
  if c = '\n' then .newline
  else
    match q with
    | .single =>
      if c = '\'' then .closingQuote else if c = '\\' || isPatternChar c then .protected_ else .plain
    | _ =>
      match c with
      | '\\' => .backslash
      | '`' => .backquote
      | '$' => .dollar
      | '}' => .closingBrace
      | _ =>
        match q with
        | .none =>
          if c = '\'' then .singleQuote else if c = '"' then .doubleQuote
          else if "<>();&| \t".toList.contains c then .separator else .plain
        | .double =>
          if c = '"' then .closingQuote else if isPatternChar c then .protected_ else .plain
        | _ =>
          if c = '(' then .leftParenthesis else if c = ')' then .rightParenthesis else .plain

-- Where a word is read. `list` reads the commands of a substitution.
structure Context where
  list : Parser (Option Command)
  -- The text of a redirection, where quotes mean nothing.
  document : Bool := false
  -- Nothing is to be replaced, for a delimiter.
  literal : Bool := false

namespace WordReader

open TermBridge.Shell.Parser

def limit : Nat := Parser.limit

-- Parameters.

def isSpecial (c : Char) : Bool :=
  "!#$*-?@".toList.contains c || c.isDigit

-- The operator at hand is still open, or it is clear already.
inductive Form where
  | open_
  | length
  | wrong
  deriving DecidableEq, Repr

-- The rest of a name that begins with a certain character.
def longName (c : Char) : Parser String := do
  let belongs := if c.isDigit then Char.isDigit else Word.isNameChar
  return String.ofList (← takeWhile belongs limit [])

-- A name between braces, and what is known of its operator. A number sign in front asks for the length,
-- unless it is a name itself.
def bracedName : Parser (String × Form) := do
  match ← peekJoined with
  | none => return ("", .wrong)
  | some c =>
    if Word.isNameStart c || c.isDigit then return (← longName c, .open_)
    else if c = '}' then return ("", .wrong)
    else
      let _ ← next
      if c ≠ '#' then return if isSpecial c then (String.ofList [c], .open_) else ("", .wrong)
      else
        match ← peekJoined with
        | none => return ("#", .open_)
        | some d =>
          if Word.isNameChar d then return (← longName d, .length)
          else if d = '}' then return ("#", .open_)
          else
            let before ← get
            let _ ← next
            if (← peekJoined) = some '}' then
              return if isSpecial d then (String.ofList [d], .length) else ("", .wrong)
            else
              set before
              return ("#", .open_)

def operatorOf? (c : Char) : Option Operator :=
  match c with
  | '}' => some .value
  | '-' => some .default
  | '+' => some .alternative
  | '?' => some .complain
  | '=' => some .assign
  | _ => none

-- The operator behind a name. The character that decides is used up.
def operator (name : String) : Parser Parameter := do
  match ← peekJoined with
  | none => return { name := name, operator := .unknown }
  | some c =>
    let _ ← next
    if c = '%' || c = '#' then
      let longest ← takeIf c
      return { name := name, operator := if c = '%' then .cutEnd longest else .cutFront longest }
    else if c = ':' then
      match ← peekJoined with
      | none => return { name := name, operator := .unknown, emptyIsUnset := true }
      | some d =>
        let _ ← next
        return { name := name, operator := (operatorOf? d).getD .unknown, emptyIsUnset := true }
    else return { name := name, operator := (operatorOf? c).getD .unknown }

def braced : Parser Parameter := do
  match ← bracedName with
  | (name, .wrong) => return { name := name, operator := .unknown }
  | (name, .length) =>
    let closed := (← peekJoined) = some '}'
    return { name := name, operator := if closed then .length else .unknown }
  | (name, .open_) => operator name

def isCut : Operator → Bool
  | .cutEnd _ | .cutFront _ => true
  | _ => false

-- Opens a parameter. One with an operand has a level of its own where the operand is quoted in another
-- way than the parameter.
def openParameter (s : Scan) (p : Parameter) : Scan :=
  let s := s.put (.parameter p)
  if p.operator = .value && !p.emptyIsUnset then s
  else
    let quoting := if isCut p.operator then Quoting.none
      else if s.level.quoting = .arithmetic then .double else s.level.quoting
    let s := if quoting ≠ s.level.quoting || s.level.innerQuotes then
        s.enter { quoting := quoting, doubleQuoted := quoting ≠ .none, forOperand := true }
      else s
    s.set { s.level with
      open_ := s.level.open_ + 1
      openQuoted := s.level.openQuoted + (if s.level.doubleQuoted then 1 else 0) }

def closeParameter (s : Scan) : Scan :=
  let l := s.level
  let s :=
    if l.open_ = 1 && l.forOperand then s.leave
    else s.set { l with open_ := l.open_ - 1, openQuoted := l.openQuoted - 1 }
  s.put .endParameter

-- Commands.

-- Keeps what belongs to the word at hand while commands are read.
def nested (read : Parser (Option Command)) : Parser (Option Command) := do
  let pending := (← get).pending
  modify fun r => { r with pending := [] }
  let c ← read
  modify fun r => { r with pending := pending }
  return c

-- The text up to a closing backquote. The backslashes that protect something in it are taken away.
def backquoted (doubleQuoted : Bool) : Nat → List Char → Parser (List Char)
  | 0, text => return text.reverse
  | fuel + 1, text => do
    match ← nextJoined with
    | none => fail "EOF in backquote substitution"
    | some '`' => return text.reverse
    | some '\\' =>
      match ← next with
      | none => fail "EOF in backquote substitution"
      | some c =>
        if c = '\\' || c = '`' || c = '$' || (doubleQuoted && c = '"') then
          backquoted doubleQuoted fuel (c :: text)
        else backquoted doubleQuoted fuel (c :: '\\' :: text)
    | some c => do
      if c = '\n' then countLine
      backquoted doubleQuoted fuel (c :: text)

-- Reads commands from a text of its own.
def commandsIn (ctx : Context) (text : List Char) : Parser (Option Command) := do
  let outside ← get
  set { outside with rest := text, complete := true, outer := [], pushedBack := false }
  let c ← nested ctx.list
  modify fun r => { outside with
    documents := r.documents, token := r.token, word := r.word, pushedBack := false }
  return c

def oldSubstitution (ctx : Context) (s : Scan) : Parser Scan := do
  let text ← backquoted s.level.doubleQuoted limit []
  return s.put (.command (← commandsIn ctx text))

-- The list has left what ends it as the last token.
def newSubstitution (ctx : Context) (s : Scan) : Parser Scan := do
  let c ← nested ctx.list
  modify fun r => { r with pushedBack := false }
  if (← get).token ≠ .rightParenthesis then unexpected (some .rightParenthesis)
  return s.put (.command c)

-- Behind a dollar sign.
def dollar (ctx : Context) (s : Scan) : Parser Scan := do
  match ← peekJoined with
  | none => return s.putChar '$'
  | some c =>
    if ctx.literal then return s.putChar '$'
    else if c = '(' then do
      let _ ← next
      if ← takeIf '(' then
        return (s.put .arithmetic).enter { quoting := .arithmetic, doubleQuoted := true }
      else newSubstitution ctx s
    else if c = '{' then do
      let _ ← next
      return openParameter s (← braced)
    else if Word.isNameStart c then
      return openParameter s { name := ← longName c, operator := .value }
    else if isSpecial c then do
      let _ ← next
      return openParameter s { name := String.ofList [c], operator := .value }
    else return s.putChar '$'

-- Quotes.

def quoteMark (ctx : Context) (s : Scan) : Scan :=
  if ctx.document then s else s.put .quote

def toggleDouble (ctx : Context) (s : Scan) : Scan :=
  let l := s.level
  quoteMark ctx (if 0 < l.open_ then s.set { l with innerQuotes := !l.innerQuotes } else s)

def backslash (ctx : Context) (s : Scan) : Parser Scan := do
  match ← next with
  | none => return s.put (.escaped '\\')
  | some c =>
    let l := s.level
    let kept := l.doubleQuoted && c ≠ '\\' && c ≠ '`' && c ≠ '$' &&
      (c ≠ '"' || (ctx.document && l.open_ = 0)) && (c ≠ '}' || l.open_ = 0)
    let s := if kept then s.put (.escaped '\\') else s
    return { s.put (.escaped c) with quoted := true }

def closingQuote (ctx : Context) (s : Scan) (c : Char) : Scan :=
  let l := s.level
  if ctx.document && l.open_ = 0 then s.putChar c
  else
    let s := if l.openQuoted = 0 then s.set { l with quoting := .none, doubleQuoted := false } else s
    let s := { s with quoted := true }
    if c = '"' then toggleDouble ctx s else quoteMark ctx s

def rightParenthesis (s : Scan) : Parser Scan := do
  let l := s.level
  if 0 < l.parentheses then return s.set { l with parentheses := l.parentheses - 1 } |>.putChar ')'
  else if ← takeIf ')' then return (s.put .endArithmetic).leave
  else return s.putChar ')'

-- Takes one character, unless the word ends in front of it.
def step (ctx : Context) (s : Scan) (c : Char) : Parser (Option Scan) := do
  let l := s.level
  match l.quoting.role c with
  | .plain => return some (s.putChar c)
  | .newline =>
    if l.quoting = .none && l.open_ = 0 then return none
    else do
      countLine
      return some (s.putChar c)
  | .separator => return if l.open_ = 0 then none else some (s.putChar c)
  | .protected_ =>
    return some (if !ctx.document || l.doubleQuoted then s.put (.escaped c) else s.putChar c)
  | .backslash => return some (← backslash ctx s)
  | .singleQuote => return some (quoteMark ctx (s.set { l with quoting := .single }))
  | .doubleQuote =>
    return some (toggleDouble ctx (s.set { l with quoting := .double, doubleQuoted := true }))
  | .closingQuote => return some (closingQuote ctx s c)
  | .dollar => return some (← dollar ctx s)
  | .closingBrace =>
    return some (if !l.innerQuotes && 0 < l.open_ then closeParameter s else s.putChar c)
  | .leftParenthesis =>
    return some (s.set { l with parentheses := l.parentheses + 1 } |>.putChar c)
  | .rightParenthesis => return some (← rightParenthesis s)
  | .backquote =>
    if ctx.literal then return some (s.putChar c) else return some (← oldSubstitution ctx s)

def nextIn (s : Scan) : Parser (Option Char) :=
  if s.level.quoting = .single then next else nextJoined

-- Whether the line at hand is the delimiter. If it is, it is used up.
def isDelimiter (p : Pending) : Parser Bool := do
  if p.stripsTabs then
    let _ ← takeTabs limit
  let before ← get
  if ← matches_ p.delimiter then return true
  else
    set before
    return false
where
  takeTabs : Nat → Parser Unit
    | 0 => return ()
    | fuel + 1 => do
      if (← peek) = some '\t' then
        let _ ← next
        takeTabs fuel
  matches_ : List Char → Parser Bool
    | [] => do
      match ← next with
      | none => return true
      | some c => do
        if c = '\n' then countLine
        return c = '\n'
    | d :: rest => do
      if (← next) = some d then matches_ rest else return false

-- Takes characters up to the end of the word, or of the document.
def scan (ctx : Context) (document : Option Pending) : Nat → Bool → Scan → Parser Scan
  | 0, _, s => return s
  | fuel + 1, lineStart, s => do
    if s.level.quoting ≠ .single then skipJoints limit
    let ended ← match document with
      | some p => if lineStart then isDelimiter p else pure false
      | none => pure false
    if ended then return s
    else
      let before ← get
      match ← nextIn s with
      | none => return s
      | some c =>
        match ← step ctx s c with
        | some s => scan ctx document fuel (c = '\n') s
        | none =>
          set before
          return s

-- What is still open at the end.
def check (ctx : Context) (s : Scan) : Parser Unit := do
  if s.level.quoting = .arithmetic then fail "Missing '))'"
  else if s.level.quoting ≠ .none && !ctx.document then fail "Unterminated quoted string"
  else if 0 < s.level.open_ then fail "Missing '\x7d'"

-- A redirection by its sign, without its target. A new document is announced.
def redirectionSign (c : Char) : Parser Direction := do
  let _ ← next
  if c = '>' then
    if ← takeIf '>' then return .append
    else if ← takeIf '|' then return .clobber
    else if ← takeIf '&' then return .duplicateOutput
    else return .to
  else if ← takeIf '<' then do
    let strips ← takeIf '-'
    let number := (← get).documents.size
    modify fun r => { r with
      documents := r.documents.push []
      pending := r.pending ++ [⟨number, [], strips, true⟩] }
    return .here number
  else if ← takeIf '&' then return .duplicateInput
  else if ← takeIf '>' then return .both
  else return .from_

-- The number that stands directly in front of a redirection.
def descriptor? (s : Scan) (c : Char) : Option Nat :=
  match s.items with
  | [] => if s.quoted then none else some (if c = '>' then 1 else 0)
  | [.char d] => if d.isDigit && !s.quoted then some (d.toNat - '0'.toNat) else none
  | _ => none

-- Reads a word, or a redirection without its target.
def read (ctx : Context) : Parser Token := do
  let s ← scan ctx none limit false (.start .none)
  check ctx s
  let sign? := (← peek).filter fun c => c == '<' || c == '>'
  match sign?.bind fun c => (descriptor? s c).map fun n => (c, n) with
  | some (c, n) =>
    let direction ← redirectionSign c
    modify fun r => { r with redirection := .mk n direction [], token := .redirection }
    return .redirection
  | none =>
    modify fun r => { r with word := s.items.reverse, quoted := s.quoted, token := .word }
    return .word

def readDocument (ctx : Context) (p : Pending) : Parser Unit := do
  let ctx := { ctx with document := true }
  let s ← scan ctx (some p) limit true (.start (if p.literal then .single else .double))
  check ctx s
  modify fun r => { r with documents := r.documents.setIfInBounds p.number s.items.reverse }

def readDocuments (ctx : Context) : List Pending → Parser Unit
  | [] => return ()
  | p :: rest => do
    readDocument ctx p
    readDocuments ctx rest

end WordReader

end TermBridge.Shell
