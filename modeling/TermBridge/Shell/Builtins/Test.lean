import TermBridge.Shell.State

namespace TermBridge.Shell.Condition

open Unix (FileStatus)

inductive Comparison where
  | same
  | different
  | before
  | after
  | equal
  | unequal
  | atLeast
  | greater
  | atMost
  | less
  | newer
  | older
  | sameFile
  deriving DecidableEq, Repr

inductive FileTest where
  | readable
  | writable
  | executable
  | present
  | regular
  | directory
  | characterDevice
  | blockDevice
  | fifo
  | socket
  | setUser
  | setGroup
  | sticky
  | filled
  | link
  | owned
  deriving DecidableEq, Repr

inductive Operator where
  | isTerminal
  | isEmpty
  | isFilled
  | file (t : FileTest)
  | compare (c : Comparison)
  | not
  | and
  | or
  | leftParenthesis
  | rightParenthesis
  deriving DecidableEq, Repr

def operators : List (String × Operator) := [
  ("-t", .isTerminal),
  ("-z", .isEmpty),
  ("-n", .isFilled),
  ("-r", .file .readable),
  ("-w", .file .writable),
  ("-x", .file .executable),
  ("-e", .file .present),
  ("-f", .file .regular),
  ("-d", .file .directory),
  ("-c", .file .characterDevice),
  ("-b", .file .blockDevice),
  ("-p", .file .fifo),
  ("-S", .file .socket),
  ("-u", .file .setUser),
  ("-g", .file .setGroup),
  ("-k", .file .sticky),
  ("-s", .file .filled),
  ("-h", .file .link),
  ("-L", .file .link),
  ("-O", .file .owned),
  ("-G", .file .owned),
  ("=", .compare .same),
  ("!=", .compare .different),
  ("<", .compare .before),
  (">", .compare .after),
  ("-eq", .compare .equal),
  ("-ne", .compare .unequal),
  ("-ge", .compare .atLeast),
  ("-gt", .compare .greater),
  ("-le", .compare .atMost),
  ("-lt", .compare .less),
  ("-nt", .compare .newer),
  ("-ot", .compare .older),
  ("-ef", .compare .sameFile),
  ("!", .not),
  ("-a", .and),
  ("-o", .or),
  ("(", .leftParenthesis),
  (")", .rightParenthesis)]

def Operator.takesOne : Operator → Bool
  | .isTerminal | .isEmpty | .isFilled | .file _ => true
  | _ => false

def Operator.comparison? : Operator → Option Comparison
  | .compare c => some c
  | _ => none

def operator? (text : String) : Option Operator :=
  operators.lookup text

def isComparison (text : String) : Bool :=
  ((operator? text).bind Operator.comparison?).isSome

-- Whether an operator that takes one argument is an argument itself, by what follows it.
def isOperand (rest : List String) : Bool :=
  match rest with
  | [] => true
  | [_] => false
  | next :: _ => isComparison next

-- What the first of some arguments is: nothing at the end, an operator, or an operand.
inductive Lexeme where
  | atEnd
  | operator (o : Operator)
  | operand
  deriving DecidableEq, Repr

def lexeme : List String → Lexeme
  | [] => .atEnd
  | text :: rest =>
    match operator? text with
    | none => .operand
    | some o =>
      if (o.takesOne && isOperand rest) || (o = .leftParenthesis && rest.isEmpty) then .operand
      else .operator o

-- Files.

def status? (path : String) (follow : Bool) : Sh (Option FileStatus) := do
  match ← Sh.call (.status path follow) with
  | .ok status => return some status
  | .error _ => return none

def fileHas (t : FileTest) (path : String) : Sh Bool := do
  match ← status? path (t ≠ .link) with
  | none => return false
  | some s =>
    match t with
    | .present | .readable | .writable | .owned => return true
    | .executable => return s.kind = .directory || s.mode &&& 0o111 ≠ 0
    | .regular => return s.kind = .regular
    | .directory => return s.kind = .directory
    | .characterDevice => return s.kind = .device
    | .fifo => return s.kind = .pipe
    | .link => return s.kind = .link
    | .filled => return 0 < s.size
    | _ => return false

def compareNumbers (left right : String) (holds : Int → Int → Bool) : Sh Bool := do
  let l ← Sh.integer left
  return holds l (← Sh.integer right)

def compare (c : Comparison) (left right : String) : Sh Bool := do
  match c with
  | .same => return left = right
  | .different => return left ≠ right
  | .before => return left < right
  | .after => return right < left
  | .equal => compareNumbers left right (· == ·)
  | .unequal => compareNumbers left right (· != ·)
  | .atLeast => compareNumbers left right (· ≥ ·)
  | .greater => compareNumbers left right (· > ·)
  | .atMost => compareNumbers left right (· ≤ ·)
  | .less => compareNumbers left right (· < ·)
  | .newer | .older => return false
  | .sameFile => do
    match ← status? left true, ← status? right true with
    | some l, some r => return l.id = r.id
    | _, _ => return false

def complain {α : Type} (operator message : String) : Sh α :=
  Sh.fail (if operator.isEmpty then message else operator ++ ": " ++ message)

def applyOne (o : Operator) (arg : String) : Sh Bool := do
  match o with
  | .isEmpty => return arg.isEmpty
  | .isFilled => return !arg.isEmpty
  | .isTerminal => do
    let descriptor ← Sh.integer arg
    if descriptor < 0 then return false else Sh.isTerminal descriptor.toNat
  | .file t => fileHas t arg
  | _ => return false

mutual

-- Each of these takes the arguments from the one at hand on, with what that is, and gives the value and
-- the arguments from the last one it has used on. The fuel is more than there are arguments.
def either (fuel : Nat) (l : Lexeme) (args : List String) (found : Bool) :
    Sh (Bool × List String) := do
  match fuel with
  | 0 => return (found, args)
  | fuel + 1 =>
    let (value, args) ← both fuel l args true
    let found := found || value
    if lexeme (args.drop 1) = .operator .or then
      either fuel (lexeme (args.drop 2)) (args.drop 2) found
    else return (found, args)

def both (fuel : Nat) (l : Lexeme) (args : List String) (holds : Bool) :
    Sh (Bool × List String) := do
  match fuel with
  | 0 => return (holds, args)
  | fuel + 1 =>
    let (value, args) ← negation fuel l args
    let holds := holds && value
    if lexeme (args.drop 1) = .operator .and then
      both fuel (lexeme (args.drop 2)) (args.drop 2) holds
    else return (holds, args)

def negation (fuel : Nat) (l : Lexeme) (args : List String) : Sh (Bool × List String) := do
  match fuel with
  | 0 => return (false, args)
  | fuel + 1 =>
    if l = .operator .not then
      let next := lexeme (args.drop 1)
      let (value, args) ← negation fuel next (if next = .atEnd then args else args.drop 1)
      return (!value, args)
    else primary fuel l args

def primary (fuel : Nat) (l : Lexeme) (args : List String) : Sh (Bool × List String) := do
  match fuel with
  | 0 => return (false, args)
  | fuel + 1 =>
    let here := args.headD ""
    match l with
    | .atEnd => return (false, args)
    | .operator .leftParenthesis =>
      let args := args.drop 1
      let next := lexeme args
      if next = .operator .rightParenthesis then return (false, args)
      else
        let (value, args) ← either fuel next args false
        let args := args.drop 1
        if lexeme args ≠ .operator .rightParenthesis then complain "" "closing paren expected"
        else return (value, args)
    | l =>
      let one? := match l with
        | .operator o => if o.takesOne then some o else none
        | _ => none
      match one?, args.drop 1 with
      | some _, [] => complain here "argument expected"
      | some o, arg :: rest => return (← applyOne o arg, arg :: rest)
      | none, next :: rest =>
        match lexeme (next :: rest), rest with
        | .operator (.compare _), [] => complain next "argument expected"
        | .operator (.compare c), right :: rest => return (← compare c here right, right :: rest)
        | _, _ => return (!here.isEmpty, args)
      | none, [] => return (!here.isEmpty, args)

end

def fuelFor (args : List String) : Nat :=
  5 * args.length + 5

-- Evaluates the arguments as a whole. `plain` tells that the first one is an operand.
def whole (plain : Bool) (args : List String) : Sh Bool := do
  let l := if plain then .operand else lexeme args
  let (value, rest) ← either (fuelFor args) l args false
  match rest with
  | last :: _ :: _ => complain last "unexpected operator"
  | _ => return value

-- Decides by the number of arguments. The fuel is their number.
def decideFrom : Nat → List String → Sh Bool
  | 0, _ => return false
  | fuel + 1, args => do
    match args with
    | [] => return false
    | [_, operator, _] => if isComparison operator then whole true args else inner fuel args
    | [_, _, _, _] => inner fuel args
    | args => whole false args
where
  inner (fuel : Nat) (args : List String) : Sh Bool := do
    if args.head? = some "(" && args.getLast? = some ")" then whole false (args.drop 1).dropLast
    else if args.head? = some "!" then return !(← decideFrom fuel (args.drop 1))
    else whole false args

-- The command by either of its names. The second one needs a closing bracket.
def run (name : String) (args : List String) : Sh Nat := do
  let holds ←
    if name = "[" then
      if args.getLast? = some "]" then decideFrom (args.length + 1) args.dropLast
      else Sh.fail "missing ]"
    else decideFrom (args.length + 1) args
  return if holds then 0 else 1

end TermBridge.Shell.Condition
