namespace TermBridge.Programs

structure Switch where
  letter : Char
  word : String
  takesValue : Bool := false
  deriving DecidableEq, Repr

inductive ArgumentError where
  | unknownLetter (c : Char)
  | unknownWord (text : String)
  | ambiguousWord (text : String) (words : List String)
  | unwantedValue (word : String)
  | missingValue (c : Char)
  | missingWordValue (word : String)
  deriving DecidableEq, Repr

def ArgumentError.message : ArgumentError → String
  | .unknownLetter c => "invalid option -- '" ++ String.ofList [c] ++ "'"
  | .unknownWord text => "unrecognized option '--" ++ text ++ "'"
  | .ambiguousWord text words =>
    "option '--" ++ text ++ "' is ambiguous; possibilities:" ++
      String.join (words.map fun w => " '--" ++ w ++ "'")
  | .unwantedValue word => "option '--" ++ word ++ "' doesn't allow an argument"
  | .missingValue c => "option requires an argument -- '" ++ String.ofList [c] ++ "'"
  | .missingWordValue word => "option '--" ++ word ++ "' requires an argument"

-- The options that were given, with their values, and the other arguments.
structure Arguments where
  switches : List (Char × String) := []
  operands : List String := []
  deriving DecidableEq, Repr

namespace Arguments

def add (a : Arguments) (letter : Char) (value : String) : Arguments :=
  { a with switches := a.switches ++ [(letter, value)] }

def has (a : Arguments) (letter : Char) : Bool :=
  a.switches.any (·.1 == letter)

def value? (a : Arguments) (letter : Char) : Option String :=
  (a.switches.reverse.find? (·.1 == letter)).map (·.2)

-- The switch that a word means: one with this name, or the only one whose name begins with it.
def word? (switches : List Switch) (text : String) : Except ArgumentError Switch :=
  let switches := switches.filter (·.word ≠ "")
  match switches.find? (·.word == text) with
  | some s => .ok s
  | none =>
    match switches.filter fun s => text.toList.isPrefixOf s.word.toList with
    | [] => .error (.unknownWord text)
    | [s] => .ok s
    | many => .error (.ambiguousWord text (many.map (·.word)))

-- Reads the letters behind a dash. The second component tells that the next argument is the value of
-- the last one.
def letters (switches : List Switch) (a : Arguments) :
    List Char → Except ArgumentError (Arguments × Option Char)
  | [] => .ok (a, none)
  | c :: rest =>
    match switches.find? (·.letter == c) with
    | none => .error (.unknownLetter c)
    | some s =>
      if !s.takesValue then letters switches (a.add c "") rest
      else if rest.isEmpty then .ok (a, some c)
      else .ok (a.add c (String.ofList rest), none)

-- Reads all arguments. `mixed` tells that options can stand behind other arguments.
def readFrom (switches : List Switch) (mixed : Bool) (a : Arguments) :
    List String → Except ArgumentError Arguments
  | [] => .ok a
  | arg :: rest =>
    match arg.toList with
    | ['-', '-'] => .ok { a with operands := a.operands ++ rest }
    | '-' :: '-' :: body =>
      let name := String.ofList (body.takeWhile (· != '='))
      match word? switches name, body.dropWhile (· != '='), rest with
      | .error err, _, _ => .error err
      | .ok s, '=' :: value, rest =>
        if s.takesValue then readFrom switches mixed (a.add s.letter (String.ofList value)) rest
        else .error (.unwantedValue s.word)
      | .ok s, _, rest =>
        if !s.takesValue then readFrom switches mixed (a.add s.letter "") rest
        else
          match rest with
          | [] => .error (.missingWordValue s.word)
          | value :: rest => readFrom switches mixed (a.add s.letter value) rest
    | '-' :: c :: more =>
      match letters switches a (c :: more) with
      | .error err => .error err
      | .ok (a, none) => readFrom switches mixed a rest
      | .ok (a, some c) =>
        match rest with
        | [] => .error (.missingValue c)
        | value :: rest => readFrom switches mixed (a.add c value) rest
    | _ =>
      if mixed then readFrom switches mixed { a with operands := a.operands ++ [arg] } rest
      else .ok { a with operands := a.operands ++ arg :: rest }

def read? (switches : List Switch) (mixed : Bool) (args : List String) :
    Except ArgumentError Arguments :=
  readFrom switches mixed {} args

end Arguments

-- The line that points to a program's help.
def hint (program : String) : String :=
  "Try '" ++ program ++ " --help' for more information.\n"

def ArgumentError.complaint (program : String) (err : ArgumentError) : String :=
  program ++ ": " ++ err.message ++ "\n" ++ hint program

end TermBridge.Programs
