import TermBridge.Text.Blank
import TermBridge.Text.Letters

namespace TermBridge.Log.Pattern

-- What holds inside a group: whether the pattern is about bytes, and not about characters of all
-- scripts; whether case is ignored; and whether blanks and comments stand between the parts.
structure Flags where
  bytes : Bool := false
  ignoreCase : Bool := false
  spaced : Bool := false
  deriving DecidableEq, Repr

namespace Flags

def allows (f : Flags) (c : Char) : Bool :=
  if f.bytes then c.toNat < 128 else !f.ignoreCase

-- A class by name is about all scripts, unless the pattern is about bytes. Its complement would hold
-- parts of characters.
def allowsNamed (f : Flags) (negated : Bool) : Bool :=
  f.bytes && !negated

-- A class of ASCII characters, or one between brackets.
def allowsClass (f : Flags) (negated : Bool) : Bool :=
  if f.bytes then !negated else true

end Flags

-- Skips blanks and comments, which run to the end of their line.
def skipBlanks (inComment : Bool) : List Char → List Char
  | [] => []
  | c :: rest =>
    if inComment then skipBlanks (c != '\n') rest
    else if Blank.isBlank c then skipBlanks false rest
    else if c == '#' then skipBlanks true rest
    else c :: rest

def Flags.skip (f : Flags) (text : List Char) : List Char :=
  if f.spaced then skipBlanks false text else text

-- Escapes.

inductive Atom where
  | char (c : Char)
  | namedClass (negated : Bool)
  | edge
  | wordEdge
  deriving DecidableEq, Repr

def hexDigit? (c : Char) : Option Nat :=
  if c.isDigit then some (c.toNat - '0'.toNat)
  else if 'a' ≤ c && c ≤ 'f' then some (c.toNat - 'a'.toNat + 10)
  else if 'A' ≤ c && c ≤ 'F' then some (c.toNat - 'A'.toNat + 10)
  else none

-- The character with a number of so many hexadecimal digits.
def hexChar? : Nat → Nat → List Char → Option (Atom × List Char)
  | 0, n, rest => if n.isValidChar then some (.char (Char.ofNat n), rest) else none
  | _ + 1, _, [] => none
  | more + 1, n, c :: rest => (hexDigit? c).bind fun d => hexChar? more (16 * n + d) rest

-- What a backslash in front of the text makes of it.
def escape? : List Char → Option (Atom × List Char)
  | [] => none
  | c :: rest =>
    match c with
    | 'x' => hexChar? 2 0 rest
    | 'u' => hexChar? 4 0 rest
    | 'U' => hexChar? 8 0 rest
    | 'd' | 's' | 'w' => some (.namedClass false, rest)
    | 'D' | 'S' | 'W' => some (.namedClass true, rest)
    | 'a' | 'f' | 't' | 'n' | 'r' | 'v' => some (.char ' ', rest)
    | 'A' | 'z' => some (.edge, rest)
    | 'b' | 'B' | '<' | '>' => some (.wordEdge, rest)
    | c => if c.toNat < 128 && !c.isAlphanum then some (.char c, rest) else none

-- Classes between brackets.

def asciiClasses : List String := [
  "alnum", "alpha", "ascii", "blank", "cntrl", "digit", "graph", "lower", "print", "punct", "space",
  "upper", "word", "xdigit"]

-- Reads the name of an ASCII class and what closes it, behind its opening bracket.
def asciiClass? (text : List Char) : Option (Bool × List Char) :=
  match text with
  | ':' :: text =>
    let (negated, text) := match text with
      | '^' :: text => (true, text)
      | text => (false, text)
    match text.dropWhile (· != ':') with
    | ':' :: ']' :: rest =>
      if asciiClasses.contains (String.ofList (text.takeWhile (· != ':'))) then some (negated, rest)
      else none
    | _ => none
  | _ => none

-- Reads what follows the opening bracket of a class: a caret, then dashes or a bracket that stand for
-- themselves.
def openClass? (f : Flags) (text : List Char) : Option (List Char) :=
  let text := f.skip text
  let (negated, text) := match text with
    | '^' :: text => (true, f.skip text)
    | text => (false, text)
  let front := text.takeWhile fun c => c == '-' || (f.spaced && Blank.isBlank c)
  let dashed := front.contains '-'
  let text := text.drop front.length
  let (literal, text) := match text with
    | ']' :: rest => if dashed then (false, text) else (true, rest)
    | text => (false, text)
  if !f.allowsClass negated || ((dashed || literal) && !f.allows '-') then none
  else some (f.skip text)

-- One end of a range in a class, or a class by name.
def classAtom? : List Char → Option (Atom × List Char)
  | [] => none
  | '\\' :: rest => escape? rest
  | c :: rest => some (.char c, rest)

-- A member of a class: a range, or what stands alone.
def member? (f : Flags) (text : List Char) : Option (List Char) := do
  let (first, text) ← classAtom? text
  let text := f.skip text
  match first, text with
  | _, [] => none
  | .char low, '-' :: rest =>
    match f.skip rest with
    | [] => none
    | ']' :: _ | '-' :: _ => if f.allows low then some text else none
    | rest =>
      let (last, rest) ← classAtom? rest
      match last with
      | .char high => if low ≤ high && f.allows low && f.allows high then some rest else none
      | _ => none
  | .char c, text => if f.allows c then some text else none
  | .namedClass negated, '-' :: rest =>
    match f.skip rest with
    | ']' :: _ | '-' :: _ => if f.allowsNamed negated then some text else none
    | _ => none
  | .namedClass negated, text => if f.allowsNamed negated then some text else none
  | _, _ => none

-- Reads the members of `depth` classes that are open, up to the bracket that closes the outermost.
def members? (f : Flags) : Nat → Nat → List Char → Option (List Char)
  | 0, _, _ => none
  | fuel + 1, depth, text =>
    match f.skip text with
    | [] => none
    | '[' :: rest =>
      match asciiClass? rest with
      | some (negated, rest) =>
        if f.allowsClass negated && (f.bytes || !f.ignoreCase) then members? f fuel depth rest
        else none
      | none => (openClass? f rest).bind (members? f fuel (depth + 1))
    | ']' :: rest => if depth ≤ 1 then some rest else members? f fuel (depth - 1) rest
    | '&' :: '&' :: rest | '-' :: '-' :: rest | '~' :: '~' :: rest => members? f fuel depth rest
    | text => (member? f text).bind (members? f fuel depth)

-- Groups.

structure State where
  flags : Flags := {}
  -- The flags around each group that is open, innermost first.
  outer : List Flags := []
  -- Whether there is something in front that can be repeated.
  repeatable : Bool := false
  names : List String := []

-- Reads flags up to what ends them. `seen` holds those that were there, with a dash for what turns
-- the ones behind it off.
def flags? (f : Flags) (seen : List Char) : List Char → Option (Flags × List Char × Char × List Char)
  | [] => none
  | c :: rest =>
    if c = ')' || c = ':' then
      if seen.head? == some '-' then none else some (f, seen, c, rest)
    else if seen.contains c then none
    else
      let on := !seen.contains '-'
      match c with
      | '-' | 'm' | 's' | 'U' | 'R' => flags? f (c :: seen) rest
      | 'i' => flags? { f with ignoreCase := on } (c :: seen) rest
      | 'x' => flags? { f with spaced := on } (c :: seen) rest
      | 'u' => flags? { f with bytes := !on } (c :: seen) rest
      | _ => none

def canBeginName (c : Char) : Bool :=
  c == '_' || (Letters.isLetterOrNumber c && !c.isDigit)

def canContinueName (c : Char) : Bool :=
  c == '_' || c == '.' || c == '[' || c == ']' || Letters.isLetterOrNumber c

def name? (text : List Char) : Option (String × List Char) :=
  let name := text.takeWhile (· != '>')
  match name, text.dropWhile (· != '>') with
  | c :: more, _ :: rest =>
    if canBeginName c && more.all canContinueName then some (String.ofList name, rest) else none
  | _, _ => none

def State.enter (s : State) (f : Flags) : State :=
  { s with flags := f, outer := s.flags :: s.outer, repeatable := false }

-- Reads what follows an opening parenthesis. Looking around is not possible.
def group? (s : State) (text : List Char) : Option (State × List Char) :=
  let named (text : List Char) := do
    let (name, rest) ← name? text
    if s.names.contains name then none
    else some ({ s.enter s.flags with names := name :: s.names }, rest)
  match s.flags.skip text with
  | '?' :: 'P' :: '<' :: rest => named rest
  | '?' :: '<' :: rest =>
    match rest with
    | '=' :: _ | '!' :: _ => none
    | rest => named rest
  | '?' :: rest => do
    let (f, seen, last, rest) ← flags? s.flags [] rest
    if last = ':' then some (s.enter f, rest)
    else if seen.isEmpty then none
    else some ({ s with flags := f, repeatable := false }, rest)
  | text => some (s.enter s.flags, text)

-- The whole pattern.

def atom? (s : State) : Atom → Option State
  | .char c => if s.flags.allows c then some { s with repeatable := true } else none
  | .namedClass negated =>
    if s.flags.allowsNamed negated then some { s with repeatable := true } else none
  | .edge => some { s with repeatable := true }
  | .wordEdge => if s.flags.bytes then some { s with repeatable := true } else none

-- Reads one part, whose first character is given.
def part? (s : State) (c : Char) (rest : List Char) : Option (State × List Char) :=
  match c with
  | '(' => group? s rest
  | ')' =>
    match s.outer with
    | [] => none
    | f :: outer => some ({ s with flags := f, outer := outer, repeatable := true }, rest)
  | '|' => some ({ s with repeatable := false }, rest)
  | '[' => do
    let text ← openClass? s.flags rest
    let rest ← members? s.flags (text.length + 1) 1 text
    some ({ s with repeatable := true }, rest)
  | '?' | '*' | '+' =>
    if !s.repeatable then none
    else
      match rest with
      | '?' :: rest => some (s, rest)
      | rest => some (s, rest)
  | '{' => none
  | '\\' => do
    let (atom, rest) ← escape? rest
    return (← atom? s atom, rest)
  | '.' => if s.flags.bytes then none else some ({ s with repeatable := true }, rest)
  | '^' | '$' => (atom? s .edge).map fun s => (s, rest)
  | c => (atom? s (.char c)).map fun s => (s, rest)

-- All groups have to be closed at the end.
def parts (s : State) : Nat → List Char → Bool
  | 0, _ => false
  | fuel + 1, text =>
    match s.flags.skip text with
    | [] => s.outer.isEmpty
    | c :: rest =>
      match part? s c rest with
      | some (s, rest) => parts s fuel rest
      | none => false

def isWellFormed (text : List Char) : Bool :=
  parts {} (text.length + 1) text

-- Numbers.

def dropSign : List Char → List Char
  | '+' :: rest | '-' :: rest => rest
  | text => text

-- Digits with at most one point among them, and a power of ten.
def isDecimal (text : List Char) : Bool :=
  let whole := text.takeWhile Char.isDigit
  let text := text.dropWhile Char.isDigit
  let (fraction, text) := match text with
    | '.' :: rest => (rest.takeWhile Char.isDigit, rest.dropWhile Char.isDigit)
    | text => ([], text)
  (!whole.isEmpty || !fraction.isEmpty) &&
    match text with
    | [] => true
    | c :: rest =>
      let digits := dropSign rest
      (c == 'e' || c == 'E') && !digits.isEmpty && digits.all Char.isDigit

def isNumber (text : List Char) : Bool :=
  let text := (dropSign text).map Char.toLower
  isDecimal text || text == "inf".toList || text == "infinity".toList || text == "nan".toList

-- What a field can be compared with: a number, or a pattern.
def isValue (text : String) : Bool :=
  isNumber text.toList || isWellFormed text.toList

end TermBridge.Log.Pattern
