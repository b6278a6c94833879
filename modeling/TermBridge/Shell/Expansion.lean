import TermBridge.Shell.Arithmetic
import TermBridge.Shell.Assign
import TermBridge.Shell.Fields
import TermBridge.Text.Numeral

namespace TermBridge.Shell

namespace Expansion

structure Mode where
  -- It is split into fields.
  splits : Bool := false
  -- A tilde at the beginning stands for a directory, and in assignments one behind an equals sign or a
  -- colon does so, too.
  tilde : Bool := false
  assignment : Bool := false
  afterEquals : Bool := false
  -- It stands for a parameter, so what is not quoted is split.
  operand : Bool := false
  quoted : Bool := false
  deriving DecidableEq, Repr

abbrev Substitute := Option Command → Sh (List Char)

-- Tildes.

-- The home directory that a line of the list of users names.
def homeIn (name line : String) : Option String :=
  match line.splitOn ":" with
  | user :: _ :: _ :: _ :: _ :: home :: _ => if user = name then some home else none
  | _ => none

def readAll (descriptor : Nat) : Nat → List Char → Sh (List Char)
  | 0, text => return text
  | fuel + 1, text => do
    match ← Sh.call (.read descriptor 4096) with
    | .error e => if e = Errno.interrupted then readAll descriptor fuel text else return text
    | .ok [] => return text
    | .ok more => readAll descriptor fuel (text ++ more)

def usersFile : String := "/etc/passwd"

def homeOf? (name : String) : Sh (Option String) := do
  if name.isEmpty then Sh.lookup Sh.homeName
  else
    match ← Sh.call (.openFile usersFile { reads := true }) with
    | .error _ => return none
    | .ok descriptor => do
      let text ← readAll descriptor Sh.limit []
      let _ ← Sh.call (.close descriptor)
      return ((String.ofList text).splitOn "\n").findSome? (homeIn name)

-- The name behind a tilde, and what follows it. Nothing in a name is special.
def tildeName (assignment : Bool) : List Item → Option (List Char × List Item)
  | .char c :: rest =>
    if c = '/' || (c = ':' && assignment) then some ([], .char c :: rest)
    else (tildeName assignment rest).map fun r => (c :: r.1, r.2)
  | [] => some ([], [])
  | .endParameter :: rest => some ([], .endParameter :: rest)
  | _ => none

def tilde (m : Mode) (items : List Item) : Sh (List Part × List Item) := do
  match items with
  | .char '~' :: rest =>
    match tildeName m.assignment rest with
    | none => return ([], items)
    | some (name, rest) =>
      match ← homeOf? (String.ofList name) with
      | some home => return ([⟨.never, Field.ofText true home⟩], rest)
      | none => return ([], items)
  | _ => return ([], items)

-- Parameters.

-- The letters of all options, in the order in which they are shown.
def optionLetters : List Char :=
  "puabCEVvxsnmiIfe".toList

-- What stands between the positional parameters when all of them are put in one place.
def separator (m : Mode) (name : String) : Sh Field := do
  if name = "@" && m.quoted && m.splits then return [.separator]
  else
    match ← Sh.lookup Sh.separatorsName with
    | none => return .ofText m.quoted " "
    | some separators =>
      if m.splits && !m.quoted then return [.separator]
      else return .ofText m.quoted (String.ofList (separators.toList.take 1))

def digits (n : Nat) : String :=
  String.ofList (Numeral.decimal n)

-- The text of a parameter that is not the list of positional parameters, if it has one.
def single? (s : State) (name : String) : Option String :=
  let positional := s.parameters.values
  if name = "$" then some (digits s.process)
  else if name = "?" then some (digits s.status)
  else if name = "#" then some (digits positional.length)
  else if name = "!" then if s.background = 0 then none else some (digits s.background)
  else if name = "-" then some (String.ofList (optionLetters.filter s.options.contains))
  else if Sh.number? name = some 0 then some s.name
  else
    match name.toNat? with
    | some n => positional[n - 1]?
    | none => s.bindings.value? name

-- The value of a parameter, if it has one.
def value? (m : Mode) (p : Parameter) : Sh (Option Field) := do
  if p.operator = .unknown then Sh.fail "Bad substitution"
  else do
    let s ← get
    let found ← if p.name = "@" || p.name = "*" then do
        let between ← separator { m with splits := m.splits && p.operator ≠ .length } p.name
        pure (some (between.intercalate (s.parameters.values.map (Field.ofText m.quoted))))
      else pure ((single? s p.name).map (Field.ofText m.quoted))
    return found.filter fun f => !(p.emptyIsUnset && f.isEmpty)

def splittingOf (m : Mode) (p : Parameter) : Sh Splitting := do
  if !m.quoted then return .fields
  else if p.name = "@" && !(← get).parameters.values.isEmpty then return .parameters
  else return .never

def partOf (m : Mode) (p : Parameter) (f : Field) : Sh (List Part) := do
  return [⟨← splittingOf m p, f⟩]

def hasOperand (p : Parameter) : Bool :=
  p.operator ≠ .value || p.emptyIsUnset

-- What follows the operand of a parameter.
def skipOperand : Nat → List Item → List Item
  | _, [] => []
  | depth, .parameter p :: rest => skipOperand (if hasOperand p then depth + 1 else depth) rest
  | 0, .endParameter :: rest => rest
  | depth + 1, .endParameter :: rest => skipOperand depth rest
  | depth, _ :: rest => skipOperand depth rest

def complainUnset {α : Type} (p : Parameter) (message : String) : Sh α :=
  Sh.fail (p.name ++ ": " ++ message)

def notSet : String := "parameter not set"

-- The text up to where another parameter begins.
def firstText (f : Field) : List Char :=
  Field.chars (f.takeWhile (· ≠ .separator))

-- Cuts a part off that matches a pattern. At each place only one of the parameters is looked at, and
-- places that are tried from the beginning are those in the first one.
def cut (front longest : Bool) (pattern : List Char) (f : Field) : Field :=
  let isMatch (n : Nat) := Pattern.isMatch pattern (firstText (if front then f.take n else f.drop n))
  let places := if front ≠ longest then List.range ((firstText f).length + 1)
    else (List.range (f.length + 1)).reverse
  match places.find? isMatch with
  | none => f
  | some n => if front then f.drop n else f.take n

-- Arithmetic.

def compute (expression : String) : Sh String := do
  let s ← get
  let (result, assignments) := Arithmetic.evaluate s.bindings.value? expression
  assignments.forM fun a => Sh.setTo a.1 a.2
  match result with
  | .ok value => return value
  | .error err => Sh.fail (err.message expression)

-- Commands.

-- Newlines at the end of the output are left out, and so are characters that cannot be kept.
def trimOutput (output : List Char) : List Char :=
  ((output.filter (· != '\x00')).reverse.dropWhile (· == '\n')).reverse

-- Words.

def isPlain (m : Mode) : Item → Bool
  | .char c => !(m.assignment && (c == ':' || (c == '=' && !m.afterEquals)))
  | _ => false

def charOf : Item → List Mark
  | .char c => [.char c]
  | _ => []

-- The part that unquoted text makes.
def textPart (m : Mode) (inQuotes : Bool) (marks : List Mark) : List Part :=
  if marks.isEmpty then []
  else [⟨if m.operand && !m.quoted && !inQuotes then .fields else .never, marks⟩]

mutual

-- Expands items up to an end of an operand or of an expression, and gives what follows it. The fuel is
-- more than there are items.
def items (substitute : Substitute) (fuel : Nat) (m : Mode) (is : List Item) :
    Sh (List Part × List Item) := do
  match fuel with
  | 0 => return ([], is)
  | fuel + 1 =>
    if m.tilde then
      let (front, rest) ← tilde m is
      afterTilde substitute fuel { m with tilde := false } false front rest
    else afterTilde substitute fuel m false [] is

def afterTilde (substitute : Substitute) (fuel : Nat) (m : Mode) (inQuotes : Bool)
    (done : List Part) (is : List Item) : Sh (List Part × List Item) := do
  match fuel with
  | 0 => return (done, is)
  | fuel + 1 =>
    let plain := is.takeWhile (isPlain m)
    let rest := is.drop plain.length
    let front := plain.flatMap charOf
    let done' := done ++ textPart m inQuotes front
    let inner := { m with quoted := m.quoted || inQuotes }
    match rest with
    | [] => return (done', [])
    | .char c :: rest => do
      -- An equals sign or a colon of an assignment.
      let m := if c = '=' then { m with afterEquals := true } else m
      let (home, rest) ← tilde m rest
      afterTilde substitute fuel m inQuotes (done ++ textPart m inQuotes (front ++ [.char c]) ++ home)
        rest
    | .escaped c :: rest =>
      afterTilde substitute fuel m inQuotes (done' ++ [⟨.never, [.escaped c]⟩]) rest
    | .quote :: .parameter p :: .quote :: rest =>
      if !inQuotes && p = { name := "@", operator := .value } then do
        let (parts, _) ← parameter substitute fuel { m with quoted := true } p []
        afterTilde substitute fuel m inQuotes (done' ++ parts) rest
      else
        afterTilde substitute fuel m (!inQuotes) (done' ++ [⟨.never, [.quote]⟩])
          (.parameter p :: .quote :: rest)
    | .quote :: rest =>
      afterTilde substitute fuel m (!inQuotes) (done' ++ [⟨.never, [.quote]⟩]) rest
    | .parameter p :: rest => do
      let (parts, rest) ← parameter substitute fuel inner p rest
      afterTilde substitute fuel m inQuotes (done' ++ parts) rest
    | .arithmetic :: rest => do
      let (parts, rest) ← items substitute fuel {} rest
      let value ← compute (Field.joined parts).text
      let splitting := if inner.quoted then Splitting.never else .fields
      afterTilde substitute fuel m inQuotes
        (done' ++ [⟨splitting, Field.ofText inner.quoted value⟩]) rest
    | .command c :: rest => do
      let output := trimOutput (← substitute c)
      let splitting := if inner.quoted then Splitting.never else .fields
      afterTilde substitute fuel m inQuotes
        (done' ++ [⟨splitting, output.map (if inner.quoted then Mark.escaped else .char)⟩]) rest
    | .endParameter :: rest | .endArithmetic :: rest => return (done', rest)

-- Expands a parameter with the operand behind it.
def parameter (substitute : Substitute) (fuel : Nat) (m : Mode) (p : Parameter) (is : List Item) :
    Sh (List Part × List Item) := do
  match fuel with
  | 0 => return ([], is)
  | fuel + 1 =>
    let skipped := if p.operator = .value then is else skipOperand 0 is
    let found ← value? m p
    if found.isNone && (← Sh.has 'u') then
      match p.operator with
      | .default | .alternative | .assign | .complain => pure ()
      | _ => complainUnset p notSet
    match p.operator, found with
    | .value, some f => return (← partOf m p f, skipped)
    | .value, none | .cutEnd _, none | .cutFront _, none | .unknown, _ => return ([], skipped)
    | .length, f =>
      return (← partOf m p (.ofText m.quoted (digits (f.getD []).length)), skipped)
    | .default, some f | .assign, some f | .complain, some f => return (← partOf m p f, skipped)
    | .alternative, none => return ([], skipped)
    | .default, none | .alternative, some _ =>
      items substitute fuel { m with tilde := true, operand := true } is
    | .assign, none => do
      let (parts, rest) ← items substitute fuel { tilde := true } is
      Sh.setTo p.name (Field.joined parts).text
      let f ← value? m { p with operator := .value, emptyIsUnset := false }
      return (← partOf m p (f.getD []), rest)
    | .complain, none => do
      let (parts, _) ← items substitute fuel { tilde := true } is
      match is with
      | .endParameter :: _ =>
        complainUnset p (if p.emptyIsUnset then notSet ++ " or null" else notSet)
      | _ => complainUnset p (Field.joined parts).text
    | .cutEnd longest, some f => do
      let (parts, rest) ← items substitute fuel { tilde := true } is
      return (← partOf m p (cut false longest (Field.joined parts).pattern f), rest)
    | .cutFront longest, some f => do
      let (parts, rest) ← items substitute fuel { tilde := true } is
      return (← partOf m p (cut true longest (Field.joined parts).pattern f), rest)

end

def parts (substitute : Substitute) (m : Mode) (w : Word) : Sh (List Part) := do
  return (← items substitute (3 * w.length + 3) m w).1

-- The fields of a word before the names of files are put in.
def fields (substitute : Substitute) (w : Word) : Sh (List Field) := do
  let ps ← parts substitute { splits := true, tilde := true } w
  let separators := ((← get).bindings.value? Sh.separatorsName).getD Sh.standardSeparators
  return Fields.split separators none ps

-- A word as one text.
def text (substitute : Substitute) (m : Mode) (w : Word) : Sh String := do
  return (Field.joined (← parts substitute m w)).text

def pattern (substitute : Substitute) (w : Word) : Sh (List Char) := do
  return (Field.joined (← parts substitute { tilde := true } w)).pattern

end Expansion

end TermBridge.Shell
