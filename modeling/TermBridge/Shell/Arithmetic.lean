import TermBridge.Text.Numeral

namespace TermBridge.Shell.Arithmetic

inductive Operator where
  | or
  | xor
  | and
  | equal
  | unequal
  | less
  | atMost
  | greater
  | atLeast
  | shiftLeft
  | shiftRight
  | plus
  | minus
  | times
  | over
  | modulo
  deriving DecidableEq, Repr

inductive Sign where
  | negate
  | complement
  | not
  deriving DecidableEq, Repr

inductive Error where
  | divisionByZero
  | noOperand
  | noColon
  | noClosing
  | junk
  | illegalNumber (text : String)
  deriving DecidableEq, Repr

inductive Expr where
  | number (v : Int64)
  | parameter (name : String)
  | assign (name : String) (operator : Option Operator) (value : Expr)
  | signed (sign : Sign) (e : Expr)
  | apply (operator : Operator) (left right : Expr)
  | both (left right : Expr)
  | either (left right : Expr)
  | choose (test yes no : Expr)
  -- This part could not be read, perhaps after an expression that could.
  | failed (err : Error)
  | failedAfter (e : Expr) (err : Error)
  deriving DecidableEq, Repr

-- What is said about an expression that has no value.
def Error.message (expression : String) : Error → String
  | .illegalNumber text => "Illegal number: " ++ text
  | err =>
    let reason := match err with
      | .divisionByZero => "division by zero"
      | .noColon => "expecting ':'"
      | .noClosing => "expecting ')'"
      | .junk => "expecting EOF"
      | _ => "expecting primary"
    "arithmetic expression: " ++ reason ++ ": \"" ++ expression ++ "\""

-- Numbers.

def most : Nat := 0x7FFFFFFFFFFFFFFF

-- The value of a numeral, the largest number if it is too large, and what follows it.
def natural (text : List Char) : Nat × List Char :=
  let (base, body) := Numeral.baseOf text
  let (ds, rest) := Numeral.digits base body
  (Numeral.ofDigits base ds, rest)

def isSpace (c : Char) : Bool :=
  c == ' ' || (9 ≤ c.toNat && c.toNat ≤ 13)

-- The value of a variable's text. One that is not set or empty counts as zero.
def valueOf (text : String) : Except Error Int64 :=
  let body := text.toList.dropWhile isSpace
  let (negative, body) := match body with
    | '-' :: rest => (true, rest)
    | '+' :: rest => (false, rest)
    | rest => (false, rest)
  let (n, rest) := if body.head?.any Char.isDigit then natural body else (0, text.toList)
  let outOfRange := (if negative then most + 1 else most) < n
  if outOfRange || !(rest.dropWhile isSpace).isEmpty then .error (.illegalNumber text)
  else .ok (if negative then -Int64.ofNat n else Int64.ofNat n)

-- Tokens.

inductive Token where
  | number (v : Int64)
  | name (s : String)
  | mark (s : String)
  deriving DecidableEq, Repr

def marks : List String :=
  ["<<=", ">>=", "<<", ">>", "<=", ">=", "==", "!=", "&&", "||", "+=", "-=", "*=", "/=", "%=", "&=",
    "^=", "|="]

def mark (text : List Char) : String × List Char :=
  match marks.find? fun m => m.toList.isPrefixOf text with
  | some m => (m, text.drop m.length)
  | none => (String.ofList (text.take 1), text.drop 1)

def isNameChar (c : Char) : Bool :=
  c.isAlphanum || c == '_'

def isBlank (c : Char) : Bool :=
  c == ' ' || c == '\t' || c == '\n'

-- The fuel is the length of the text.
def tokens : Nat → List Char → List Token
  | 0, _ => []
  | fuel + 1, text =>
    match text.dropWhile isBlank with
    | [] => []
    | c :: rest =>
      if c.isDigit then
        let (n, rest) := natural (c :: rest)
        .number (Int64.ofNat (min n most)) :: tokens fuel rest
      else if isNameChar c then
        .name (String.ofList ((c :: rest).takeWhile isNameChar)) ::
          tokens fuel (rest.dropWhile isNameChar)
      else
        let (m, rest) := mark (c :: rest)
        .mark m :: tokens fuel rest

-- Reading.

-- The operators that group to the left, the loosest level first.
def levels : List (List (String × Operator)) := [
  [("|", .or)],
  [("^", .xor)],
  [("&", .and)],
  [("==", .equal), ("!=", .unequal)],
  [("<", .less), ("<=", .atMost), (">", .greater), (">=", .atLeast)],
  [("<<", .shiftLeft), (">>", .shiftRight)],
  [("+", .plus), ("-", .minus)],
  [("*", .times), ("/", .over), ("%", .modulo)]]

def signs : List (String × Sign) :=
  [("-", .negate), ("~", .complement), ("!", .not)]

-- The operator of an assignment, if a mark is one.
def assignment? (m : String) : Option (Option Operator) :=
  if m = "=" then some none
  else
    let operators := levels.flatten.filter fun o =>
      ["|", "^", "&", "<<", ">>", "+", "-", "*", "/", "%"].contains o.1
    (operators.find? fun o => o.1 ++ "=" = m).map fun o => some o.2

mutual

-- An expression, and the tokens behind it. Nothing is left behind a part that could not be read. The
-- fuel bounds the depth of the recursion.
def assignment (fuel : Nat) (ts : List Token) : Expr × List Token :=
  match fuel with
  | 0 => (.failed .noOperand, [])
  | fuel + 1 =>
    match ts with
    | .name n :: .mark m :: rest =>
      match assignment? m with
      | some operator =>
        let (e, rest) := assignment fuel rest
        (.assign n operator e, rest)
      | none => choice fuel ts
    | _ => choice fuel ts

def choice (fuel : Nat) (ts : List Token) : Expr × List Token :=
  match fuel with
  | 0 => (.failed .noOperand, [])
  | fuel + 1 =>
    match either fuel ts with
    | (test, .mark "?" :: rest) =>
      match assignment fuel rest with
      | (yes, .mark ":" :: rest) =>
        let (no, rest) := choice fuel rest
        (.choose test yes no, rest)
      | (yes, _) => (.choose test (.failedAfter yes .noColon) (.number 0), [])
    | r => r

def either (fuel : Nat) (ts : List Token) : Expr × List Token :=
  match fuel with
  | 0 => (.failed .noOperand, [])
  | fuel + 1 =>
    match both fuel ts with
    | (left, .mark "||" :: rest) =>
      let (right, rest) := either fuel rest
      (.either left right, rest)
    | r => r

def both (fuel : Nat) (ts : List Token) : Expr × List Token :=
  match fuel with
  | 0 => (.failed .noOperand, [])
  | fuel + 1 =>
    match level fuel levels ts with
    | (left, .mark "&&" :: rest) =>
      let (right, rest) := both fuel rest
      (.both left right, rest)
    | r => r

-- Expressions with the operators of some levels.
def level (fuel : Nat) (ls : List (List (String × Operator))) (ts : List Token) : Expr × List Token :=
  match fuel with
  | 0 => (.failed .noOperand, [])
  | fuel + 1 =>
    match ls with
    | [] => operand fuel ts
    | l :: ls =>
      let (left, rest) := level fuel ls ts
      more fuel l ls left rest

-- The rest of a chain of operators of one level.
def more (fuel : Nat) (l : List (String × Operator)) (ls : List (List (String × Operator)))
    (left : Expr) (ts : List Token) : Expr × List Token :=
  match fuel with
  | 0 => (.failed .noOperand, [])
  | fuel + 1 =>
    match ts with
    | .mark m :: rest =>
      match l.lookup m with
      | none => (left, ts)
      | some operator =>
        let (right, rest) := level fuel ls rest
        more fuel l ls (.apply operator left right) rest
    | _ => (left, ts)

def operand (fuel : Nat) (ts : List Token) : Expr × List Token :=
  match fuel with
  | 0 => (.failed .noOperand, [])
  | fuel + 1 =>
    match ts with
    | .number v :: rest => (.number v, rest)
    | .name n :: rest => (.parameter n, rest)
    | .mark "(" :: rest =>
      match assignment fuel rest with
      | (e, .mark ")" :: rest) => (e, rest)
      | (e, _) => (.failedAfter e .noClosing, [])
    | .mark "+" :: rest => operand fuel rest
    | .mark m :: rest =>
      match signs.lookup m with
      | some sign =>
        let (e, rest) := operand fuel rest
        (.signed sign e, rest)
      | none => (.failed .noOperand, [])
    | [] => (.failed .noOperand, [])

end

def parse (text : String) : Expr :=
  let ts := tokens (text.length + 1) text.toList
  match assignment (20 * (ts.length + 1)) ts with
  | (e, []) => e
  | (e, _) => .failedAfter e .junk

-- Values.

def ofBool (b : Bool) : Int64 :=
  if b then 1 else 0

def Operator.value (left right : Int64) : Operator → Except Error Int64
  | .or => .ok (left ||| right)
  | .xor => .ok (left ^^^ right)
  | .and => .ok (left &&& right)
  | .equal => .ok (ofBool (left == right))
  | .unequal => .ok (ofBool (left != right))
  | .less => .ok (ofBool (left < right))
  | .atMost => .ok (ofBool (left ≤ right))
  | .greater => .ok (ofBool (right < left))
  | .atLeast => .ok (ofBool (right ≤ left))
  | .shiftLeft => .ok (left <<< right)
  | .shiftRight => .ok (left >>> right)
  | .plus => .ok (left + right)
  | .minus => .ok (left - right)
  | .times => .ok (left * right)
  | .over => if right = 0 then .error .divisionByZero else .ok (left / right)
  | .modulo => if right = 0 then .error .divisionByZero else .ok (left % right)

def Sign.value (v : Int64) : Sign → Int64
  | .negate => -v
  | .complement => ~~~v
  | .not => ofBool (v == 0)

def render (v : Int64) : String :=
  let digits := String.ofList (Numeral.decimal v.toInt.natAbs)
  if v < 0 then "-" ++ digits else digits

-- The variables, and the assignments that have been made, newest first.
structure Memory where
  vars : String → Option String
  assigned : List (String × String) := []

def Memory.lookup (m : Memory) (name : String) : Except Error Int64 :=
  valueOf (((m.assigned.lookup name).or (m.vars name)).getD "")

def Memory.assign (m : Memory) (name : String) (v : Int64) : Memory :=
  { m with assigned := (name, render v) :: m.assigned }

abbrev Evaluation := ExceptT Error (StateM Memory)

def load (name : String) : Evaluation Int64 := do
  match (← get).lookup name with
  | .ok v => return v
  | .error err => throw err

def operate (o : Operator) (left right : Int64) : Evaluation Int64 :=
  match o.value left right with
  | .ok v => return v
  | .error err => throw err

-- The value of an expression. What does not matter for it is skipped: it can still be found out not to
-- make sense.
def Expr.eval (skip : Bool) : Expr → Evaluation Int64
  | .number v => return v
  | .parameter name => if skip then return 0 else load name
  | .assign name operator value => do
    let v ← value.eval skip
    if skip then return v
    else
      let v ← match operator with
        | none => pure v
        | some o => do operate o (← load name) v
      modify (·.assign name v)
      return v
  | .signed sign e => do return sign.value (← e.eval skip)
  | .apply operator left right => do
    let l ← left.eval skip
    let r ← right.eval skip
    if skip then return r else operate operator l r
  | .both left right => do
    let l ← left.eval skip
    let r ← right.eval (skip || l == 0)
    return ofBool (l != 0 && r != 0)
  | .either left right => do
    let l ← left.eval skip
    let r ← right.eval (skip || l != 0)
    return ofBool (l != 0 || r != 0)
  | .choose test yes no => do
    let t ← test.eval skip
    let y ← yes.eval (skip || t == 0)
    let n ← no.eval (skip || t != 0)
    return if t != 0 then y else n
  | .failed err => throw err
  | .failedAfter e err => do
    let _ ← e.eval skip
    throw err

-- The value of an expression as text, and the assignments that were made, oldest first.
def evaluate (vars : String → Option String) (expression : String) :
    Except Error String × List (String × String) :=
  let (result, m) := ((parse expression).eval false).run.run { vars := vars }
  (result.map render, m.assigned.reverse)

end TermBridge.Shell.Arithmetic
