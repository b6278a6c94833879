import TermBridge.Shell.Assign
import TermBridge.Shell.Fields
import TermBridge.Shell.Quote
import TermBridge.Shell.Traps

namespace TermBridge.Shell.Builtins

-- Showing.

def showVariable (front : String) (v : Variable) : String :=
  let text := match v.value with
    | some value => v.name ++ "=" ++ Quote.encode value
    | none => v.name
  (if front.isEmpty then "" else front ++ " ") ++ text ++ "\n"

def showVariables (front : String) (shown : Variable → Bool) : Sh Nat := do
  let vs := (← get).bindings.sorted.filter shown
  Sh.print (String.join (vs.map (showVariable front)))
  return 0

-- Marking.

-- The command that marks variables, as exported or as only to be read.
def mark (name : String) (args : List String) : Sh Nat := do
  let exports := name = "export"
  let (found, names) ← Sh.options [('p', false)] args
  if !found.isEmpty || names.isEmpty then
    showVariables name fun v => if exports then v.exported else v.readOnly
  else
    names.forM fun text => do
      let (name, value) := Sh.splitAssignment text
      let s ← get
      match value, s.bindings.find? name with
      | none, some v =>
        set { s with bindings := s.bindings.put { v with
          exported := v.exported || exports
          readOnly := v.readOnly || !exports } }
      | value, _ => Sh.assign name value { exported := exports, readOnly := !exports }
    return 0

def local_ (args : List String) : Sh Nat := do
  if (← get).formers.isEmpty then Sh.fail "not in a function"
  args.forM fun text => Sh.makeLocal text {}
  return 0

def unset (args : List String) : Sh Nat := do
  let (found, names) ← Sh.options [('v', false), ('f', false)] args
  let functions := (found.getLast?.map (·.1)) = some 'f'
  names.forM fun name =>
    if functions then
      modify fun s => { s with functions := s.functions.filter (·.1 != name) }
    else Sh.unset name
  return 0

-- Options.

-- The options with their letters, as far as these have any.
def optionTable : List (String × Option Char) := [
  ("errexit", some 'e'),
  ("noglob", some 'f'),
  ("ignoreeof", some 'I'),
  ("interactive", some 'i'),
  ("monitor", some 'm'),
  ("noexec", some 'n'),
  ("stdin", some 's'),
  ("xtrace", some 'x'),
  ("verbose", some 'v'),
  ("vi", some 'V'),
  ("emacs", some 'E'),
  ("noclobber", some 'C'),
  ("allexport", some 'a'),
  ("notify", some 'b'),
  ("nounset", some 'u'),
  ("privileged", some 'p'),
  ("nolog", none),
  ("debug", none)]

def setOption (letter : Char) (on : Bool) : Sh Unit := do
  if optionTable.any (·.2 == some letter) then
    modify fun s =>
      let others := s.options.filter (· != letter)
      { s with options := if on then letter :: others else others }
  else Sh.fail ("Illegal option -" ++ String.ofList [letter])

def setNamedOption (name : String) (on : Bool) : Sh Unit := do
  match optionTable.lookup name with
  | some (some letter) => setOption letter on
  | some none => return ()
  | none => Sh.fail ("Illegal option -o " ++ name)

def isOn (s : State) (letter : Option Char) : Bool :=
  letter.any s.options.contains

def padName (name : String) : String :=
  name ++ String.ofList (List.replicate (16 - name.length) ' ')

-- Shows all options, in words or as commands that set them.
def showOptions (inWords : Bool) : Sh Unit := do
  let s ← get
  let line (entry : String × Option Char) :=
    if inWords then padName entry.1 ++ (if isOn s entry.2 then "on" else "off") ++ "\n"
    else "set " ++ (if isOn s entry.2 then "-" else "+") ++ "o " ++ entry.1 ++ "\n"
  Sh.print ((if inWords then "Current option settings\n" else "") ++
    String.join (optionTable.map line))

-- The letters of one argument. An option by name is the next argument.
def setLetters (on : Bool) : List Char → List String → Sh (List String)
  | [], args => return args
  | 'o' :: rest, args => do
    match args with
    | [] => showOptions on
    | name :: _ => setNamedOption name on
    setLetters on rest (args.drop 1)
  | letter :: rest, args => do
    setOption letter on
    setLetters on rest args

def setParameters (values : List String) : Sh Unit :=
  modify fun s => { s with parameters := { values := values } }

-- Reads options, and leaves what follows them. The fuel is the number of arguments.
def setOptions : Nat → List String → Sh (List String)
  | 0, args => return args
  | fuel + 1, args => do
    match args with
    | [] => return []
    | arg :: rest =>
      match arg.toList with
      | ['-'] => do
        modify fun s => { s with options := s.options.filter fun c => c != 'x' && c != 'v' }
        return rest
      | ['-', '-'] => do
        if rest.isEmpty then setParameters []
        return rest
      | '-' :: letters => setOptions fuel (← setLetters true letters rest)
      | '+' :: letters => setOptions fuel (← setLetters false letters rest)
      | _ => return args

-- The command that sets options and positional parameters, without what follows from the options.
def set_ (args : List String) : Sh Nat := do
  if args.isEmpty then showVariables "" fun v => v.value.isSome
  else
    let rest ← setOptions (args.length + 1) args
    if !rest.isEmpty then setParameters rest
    return 0

def shift (args : List String) : Sh Nat := do
  let n ← match args with
    | text :: _ => Sh.number text
    | [] => pure 1
  let values := (← get).parameters.values
  if values.length < n then Sh.fail "can't shift that many"
  setParameters (values.drop n)
  return 0

-- Options of scripts.

-- What getting one option has come to: its letter, which is a question mark if something is wrong with
-- it, where the next one is looked for, and whether the options are at their end.
structure OptionStep where
  letter : Char := '?'
  index : Nat
  offset : Option Nat := none
  ended : Bool := false
  deriving DecidableEq, Repr

-- The option at hand in an argument, and what follows it there. `index` is that of the next argument.
def nextOption (args : List String) (index : Nat) (offset : Option Nat) :
    Option (Char × List Char × Nat) ⊕ Nat :=
  let inside := match offset with
    | some n => if 1 < index then ((args.getD (index - 2) "").toList).drop n else []
    | none => []
  match inside with
  | c :: rest => .inl (some (c, rest, index))
  | [] =>
    match (args[index - 1]?).map String.toList with
    | some ['-', '-'] => .inr (index + 1)
    | some ('-' :: c :: rest) => .inl (some (c, rest, index + 1))
    | _ => .inr index

def isQuiet (letters : List Char) : Bool :=
  letters.head? = some ':'

-- Whether a letter is an option, and whether it has a value.
def declared? (c : Char) : List Char → Option Bool
  | [] => none
  | d :: ':' :: rest => if c = d then some true else declared? c rest
  | d :: rest => if c = d then some false else declared? c rest

def rejectOption (quiet : Bool) (c : Char) (text : String) : Sh Unit := do
  if quiet then Sh.setTo Sh.optionArgumentName (String.ofList [c])
  else do
    Sh.complain text
    Sh.unset Sh.optionArgumentName

def getOption (letters : List Char) (args : List String) (index : Nat) (offset : Option Nat) :
    Sh OptionStep := do
  let quiet := isQuiet letters
  let name (c : Char) := "-" ++ String.ofList [c]
  match nextOption args index offset with
  | .inr index => return { index := index, ended := true }
  | .inl none => return { index := index, ended := true }
  | .inl (some (c, rest, index)) =>
    let here := (args.getD (index - 2) "").length - rest.length
    let offset := some here
    match declared? c (if quiet then letters.drop 1 else letters) with
    | none => do
      rejectOption quiet c ("Illegal option " ++ name c ++ "\n")
      return { index := index, offset := offset }
    | some false => do
      Sh.setTo Sh.optionArgumentName ""
      return { letter := c, index := index, offset := offset }
    | some true =>
      match rest, args[index - 1]? with
      | [], none => do
        rejectOption quiet c ("No arg for " ++ name c ++ " option\n")
        return { letter := if quiet then ':' else '?', index := index, offset := offset }
      | [], some value => do
        Sh.setTo Sh.optionArgumentName value
        return { letter := c, index := index + 1 }
      | rest, _ => do
        Sh.setTo Sh.optionArgumentName (String.ofList rest)
        return { letter := c, index := index }

def getopts (args : List String) : Sh Nat := do
  match args with
  | letters :: name :: given => do
    let p := (← get).parameters
    let values := if given.isEmpty then p.values else given
    let (index, offset) := if values.length + 1 < p.optionIndex then (1, none)
      else (p.optionIndex, p.optionOffset)
    let step ← getOption letters.toList values index offset
    Sh.setQuietly Sh.optionIndexName (some step.index.repr) {}
    Sh.setTo name (String.ofList [step.letter])
    modify fun s => { s with parameters := { s.parameters with
      optionIndex := step.index, optionOffset := step.offset } }
    return if step.ended then 1 else 0
  | _ => Sh.fail "Usage: getopts optstring var [arg]"

-- Reading.

-- A line that is being read: parts that can be split, newest first, and characters that were protected.
structure Line where
  parts : List Part := []
  current : List Mark := []
  deriving DecidableEq, Repr

def Line.close (l : Line) : Line :=
  { parts := ⟨.fields, l.current.reverse⟩ :: l.parts }

def Line.add (l : Line) (c : Char) : Line :=
  { l with current := .char c :: l.current }

def Line.protect (l : Line) (c : Char) : Line :=
  { parts := ⟨.never, [.escaped c]⟩ :: l.close.parts }

-- Reads a line character by character. `raw` tells that backslashes mean nothing, `protected_` that
-- there was one in front. Whether the line was complete is a part of the result.
def readLine (raw : Bool) : Nat → Bool → Line → Sh (Bool × Line)
  | 0, _, l => return (false, l)
  | fuel + 1, protected_, l => do
    match ← Sh.call (.read Programs.standardInput 1) with
    | .error e =>
      if e = Errno.interrupted then
        Sh.checkInterrupt
        if ← Sh.isDisturbed then return (false, l) else readLine raw fuel protected_ l
      else return (false, l)
    | .ok [] => return (false, l)
    | .ok (c :: _) =>
      if c = '\x00' then readLine raw fuel protected_ l
      else if protected_ then
        readLine raw fuel false (if c = '\n' then l.close else l.protect c)
      else if c = '\\' && !raw then readLine raw fuel true l
      else if c = '\n' then return (true, l)
      else readLine raw fuel false (l.add c)

-- Gives fields to names. Names that are left get nothing.
def giveFields : List String → List Field → Sh Unit
  | [], _ => return ()
  | name :: names, fields => do
    Sh.setTo name ((fields.head?.map Field.text).getD "")
    giveFields names (fields.drop 1)

def read (args : List String) : Sh Nat := do
  let (found, names) ← Sh.options [('p', true), ('r', false)] args
  match (found.reverse.find? (·.1 == 'p')).map (·.2) with
  | some text =>
    if ← Sh.isTerminal Programs.standardInput then Sh.complain text
  | none => pure ()
  if names.isEmpty then Sh.fail "arg count"
  let (complete, l) ← readLine (found.any (·.1 == 'r')) Sh.limit false {}
  let separators := ((← get).bindings.value? Sh.separatorsName).getD Sh.standardSeparators
  giveFields names (Fields.split separators (some names.length) l.close.parts.reverse)
  return if complete then 0 else 1

end TermBridge.Shell.Builtins
