import TermBridge.Log.Pattern
import TermBridge.Log.Record

namespace TermBridge.Log

-- A field that a directive asks for, and whether it asks for a value.
structure Field where
  name : String
  hasValue : Bool
  deriving DecidableEq, Repr

structure Directive where
  verbosity : Nat := Level.trace.verbosity
  target : Option String := none
  span : Option String := none
  fields : List Field := []
  deriving DecidableEq, Repr

namespace Directive

-- The names of levels, in any case, and their numbers. No name at all is the first level.
def verbosity? (text : String) : Option Nat :=
  let digits := match text.toList with
    | '+' :: rest => rest
    | cs => cs
  if !digits.isEmpty && digits.all Char.isDigit then
    (String.ofList digits).toNat?.filter (· ≤ Level.trace.verbosity)
  else
    match text.map Char.toLower with
    | "" | "error" => some Level.error.verbosity
    | "warn" => some Level.warn.verbosity
    | "info" => some Level.info.verbosity
    | "debug" => some Level.debug.verbosity
    | "trace" => some Level.trace.verbosity
    | "off" => some 0
    | _ => none

-- Characters that a directive may begin with, besides a bracket.
def canBegin (c : Char) : Bool :=
  c == '-' || c == ':' || c == '_' || Letters.isLetterOrNumber c

-- The part of a directive that is being read, and where it began.
inductive Stage where
  | start
  | word (start : Nat)
  | span (start : Nat)
  | field (start : Nat)
  | afterFields
  | afterSpan
  | level (start : Nat)
  deriving DecidableEq, Repr

def field? (text : String) : Option Field :=
  if text.isEmpty then none
  else
    match text.splitOn "=" with
    | name :: value :: _ => if Pattern.isValue value then some ⟨name, true⟩ else none
    | name :: _ => some ⟨name, false⟩
    | [] => none

-- What stands behind the first bytes of a text.
def dropBytes : Nat → List Char → List Char
  | 0, text => text
  | _, [] => []
  | n, c :: rest => dropBytes (n - c.utf8Size) rest

def takeBytes : Nat → List Char → List Char
  | 0, _ => []
  | _, [] => []
  | n, c :: rest => c :: takeBytes (n - c.utf8Size) rest

-- The part of a text from one position up to another. Positions are counted in bytes.
def part (text : List Char) (start stop : Nat) : String :=
  String.ofList (takeBytes (stop - start) (dropBytes start text))

-- Reads one character, which stands at position `i`. Parts are cut out of `text`.
def step (text : List Char) (d : Directive) (stage : Stage) (i : Nat) (c : Char) :
    Option (Directive × Stage) :=
  match stage with
  | .start =>
    if c = '[' then some (d, .span (i + c.utf8Size)) else if canBegin c then some (d, .word i) else none
  | .word start =>
    if c = '=' then some ({ d with target := some (part text start i) }, .level (i + c.utf8Size))
    else if c = '[' then some ({ d with target := some (part text start i) }, .span (i + c.utf8Size))
    else some (d, .word start)
  | .span start =>
    if c = ']' then some ({ d with span := some (part text start i) }, .afterSpan)
    else if c = '{' then
      let name := part text start i
      some ({ d with span := if name.isEmpty then none else some name }, .field (i + c.utf8Size))
    else some (d, .span start)
  | .field start =>
    if c = '}' then
      (field? (part text start i)).map fun f => ({ d with fields := d.fields ++ [f] }, .afterFields)
    else some (d, .field start)
  | .afterFields => if c = ']' then some (d, .afterSpan) else none
  | .afterSpan => if c = '=' then some (d, .level (i + c.utf8Size)) else none
  | .level start => some (d, .level start)

def steps (text : List Char) (d : Directive) (stage : Stage) (i : Nat) :
    List Char → Option (Directive × Stage)
  | [] => some (d, stage)
  | c :: rest =>
    match step text d stage i c with
    | some (d, stage) => steps text d stage (i + c.utf8Size) rest
    | none => none

-- A word that stands alone is a level if it can be, and else a target, of which all is let through.
def ofWord (d : Directive) (word : String) : Directive :=
  match verbosity? word with
  | some v => { d with verbosity := v, target := none }
  | none => { d with target := some word }

-- Blanks around a directive are skipped when it is read, but the parts are cut out of the text with
-- them.
def parse? (text : String) : Option Directive :=
  let cs := text.toList
  match steps cs {} .start 0 (Blank.trim cs) with
  | some (d, .word start) => some (d.ofWord (part cs start text.utf8ByteSize))
  | some (d, .level start) =>
    let level := part cs start text.utf8ByteSize
    if level.isEmpty then some d else (verbosity? level).map fun v => { d with verbosity := v }
  | some (d, .afterSpan) => some d
  | _ => none

-- Whether a directive can be about a record that is in no span.
def isStatic (d : Directive) : Bool :=
  d.span.isNone && !d.fields.any (·.hasValue)

-- Records have one field.
def messageField : String := "message"

def concerns (d : Directive) (r : Record) : Bool :=
  d.target.all (fun t => r.target.startsWith t) && d.fields.all (·.name == messageField)

-- A longer target is more specific, and so are more fields.
def rank (d : Directive) : Nat × Nat :=
  (match d.target with
    | some t => t.utf8ByteSize + 1
    | none => 0,
    d.fields.length)

def outranks (d e : Directive) : Bool :=
  let (t, f) := d.rank
  let (t', f') := e.rank
  t' < t || (t' = t && f' ≤ f)

end Directive

abbrev Filter := List Directive

namespace Filter

def parse? (text : String) : Option Filter :=
  ((text.splitOn ",").filter (!·.isEmpty)).mapM Directive.parse?

-- The directive that decides about a record. Of two with the same rank it is the later one.
def decisive? (filter : Filter) (r : Record) : Option Directive :=
  (filter.filter fun d => d.isStatic && d.concerns r).foldl
    (fun best d => if best.all d.outranks then some d else best) none

-- An empty filter lets errors through.
def keeps (filter : Filter) (r : Record) : Bool :=
  if filter.isEmpty then r.level = .error
  else
    match filter.decisive? r with
    | some d => r.level.verbosity ≤ d.verbosity
    | none => false

def standard : Filter := [{ verbosity := Level.info.verbosity }]

-- The filter from the environment, else that of the settings, and the standard one if both are
-- missing or malformed.
def choose (fromEnvironment : Option String) (setting : String) : Filter :=
  ((fromEnvironment.bind parse?).or (parse? setting)).getD standard

end Filter

end TermBridge.Log
