import TermBridge.Shell.Pattern

namespace TermBridge.Shell

-- A separator stands between positional parameters.
inductive Mark where
  | char (c : Char)
  | escaped (c : Char)
  | quote
  | separator
  deriving DecidableEq, Repr

-- Where a part is split: nowhere, where separators of fields stand, or between parameters only.
inductive Splitting where
  | never
  | fields
  | parameters
  deriving DecidableEq, Repr

structure Part where
  splitting : Splitting
  marks : List Mark
  deriving DecidableEq, Repr

abbrev Field := List Mark

namespace Field

def chars (f : Field) : List Char :=
  f.filterMap fun
    | .char c | .escaped c => some c
    | _ => none

def text (f : Field) : String :=
  String.ofList f.chars

-- The pattern that a field is. What was quoted is protected by backslashes. A backslash that was not
-- quoted protects what follows it; `free` tells that there was none in front.
def patternFrom (free : Bool) : Field → List Char
  | [] => []
  | .char '\\' :: rest => '\\' :: patternFrom (!free) rest
  | .char c :: rest => c :: patternFrom true rest
  | .escaped c :: rest => (if free then ['\\', c] else [c]) ++ patternFrom true rest
  | _ :: rest => patternFrom free rest

def pattern (f : Field) : List Char :=
  f.patternFrom true

def ofText (quoted : Bool) (text : String) : Field :=
  text.toList.map (if quoted then Mark.escaped else Mark.char)

-- All marks of some parts.
def joined (parts : List Part) : Field :=
  parts.flatMap (·.marks)

end Field

namespace Fields

structure Splitter where
  -- How many fields may be split off, if that is limited. The rest of the text makes the last one.
  left : Option Nat
  separators : List Char
  -- Newest first.
  fields : List Field := []
  current : List Mark := []
  count : Nat := 0
  -- The current field is to be cut here.
  cut : Option Nat := none
  -- A blank separator has ended the last field, so another separator can belong to it.
  afterBlank : Bool := false
  -- What follows a separator is being left out.
  skipping : Bool := false
  -- This part, or the one in front of it, is split between parameters.
  parameters : Bool := false
  afterParameters : Bool := false
  deriving DecidableEq, Repr

namespace Splitter

def add (s : Splitter) (m : Mark) : Splitter :=
  { s with current := m :: s.current, count := s.count + 1 }

def emit (s : Splitter) : Splitter :=
  { s with fields := s.current.reverse :: s.fields, current := [], count := 0 }

def isBlank (c : Char) : Bool :=
  c == ' ' || c == '\t' || c == '\n'

-- Whether a mark separates fields, and whether it does so as a blank.
def separates (s : Splitter) : Mark → Bool × Bool
  | .separator => (true, true)
  | .quote => (false, false)
  | .char c | .escaped c =>
    if !s.parameters && s.separators.contains c then (true, isBlank c) else (false, false)

-- A mark of the last field. Blanks at its end are left out, and so is one other separator if nothing
-- else comes.
def addLast (s : Splitter) (m : Mark) (separates blank : Bool) : Splitter :=
  if blank then { s.add m with cut := s.cut.or (some s.count) }
  else { s.add m with cut := if separates && s.afterBlank then s.cut else none, afterBlank := false }

def separate (s : Splitter) (m : Mark) (blank : Bool) : Splitter :=
  let s := if s.afterParameters || s.parameters then s else { s with afterBlank := blank }
  if s.current.isEmpty && s.afterBlank then { s with afterBlank := false }
  else if s.left = some 1 then { s.add m with left := some 0, cut := some s.count }
  else { s.emit with left := s.left.map (· - 1), skipping := !s.parameters && !s.afterParameters }

def step (s : Splitter) (m : Mark) : Splitter :=
  let (separates, blank) := s.separates m
  let goesOn := s.skipping && separates && (blank || s.afterBlank)
  if goesOn then { s with afterBlank := s.afterBlank && blank }
  else
    let s := { s with skipping := false }
    if s.left = some 0 then s.addLast m separates blank
    else if separates then s.separate m blank
    else s.add m

def part (s : Splitter) (p : Part) : Splitter :=
  if p.splitting = .never then p.marks.foldl add s
  else
    let s := { s with
      afterParameters := s.parameters
      parameters := p.splitting = .parameters
      afterBlank := false
      skipping := false }
    p.marks.foldl step s

-- The last field, which is none if it is empty, unless it is a parameter.
def finish (s : Splitter) : List Field :=
  let last := s.current.reverse
  let last := match s.cut with
    | some n => last.take n
    | none => last
  (if last.isEmpty && !s.parameters then s.fields else last :: s.fields).reverse

end Splitter

-- Splits parts into fields, at most `limit` of them if there is a limit.
def split (separators : String) (limit : Option Nat) (parts : List Part) : List Field :=
  (parts.foldl Splitter.part { left := limit, separators := separators.toList }).finish

end Fields

end TermBridge.Shell
