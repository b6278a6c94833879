import TermBridge.Toml.Value

namespace TermBridge.Toml

abbrev Reader (α : Type) := List Char → Option (α × List Char)

def isSpace (c : Char) : Bool :=
  c == ' ' || c == '\t'

-- Control characters other than the tab may stand nowhere, and that includes DEL.
def isPlain (c : Char) : Bool :=
  c == '\t' || (' ' ≤ c && c != '\x7F')

def skipSpace (text : List Char) : List Char :=
  text.dropWhile isSpace

-- A line ends with a newline, which a carriage return may precede.
def newline? : List Char → Option (List Char)
  | '\n' :: rest => some rest
  | '\r' :: '\n' :: rest => some rest
  | _ => none

-- The text behind a comment, if one begins here.
def skipComment : List Char → List Char
  | '#' :: rest => rest.dropWhile isPlain
  | text => text

-- The rest of a line that holds nothing more, and its end.
def lineEnd? (text : List Char) : Option (List Char) :=
  match skipComment (skipSpace text) with
  | [] => some []
  | rest => newline? rest

-- Blanks, comments and line ends between the items of an array.
def skipLines : Nat → List Char → List Char
  | 0, text => text
  | fuel + 1, text =>
    match newline? (skipComment (skipSpace text)) with
    | some rest => skipLines fuel rest
    | none => skipSpace text

-- Every round takes at least the line end.
def skipBlank (text : List Char) : List Char :=
  skipLines text.length text

-- Numbers.

def hexDigit? (c : Char) : Option Nat :=
  if '0' ≤ c && c ≤ '9' then some (c.toNat - '0'.toNat)
  else if 'a' ≤ c && c ≤ 'f' then some (c.toNat - 'a'.toNat + 10)
  else if 'A' ≤ c && c ≤ 'F' then some (c.toNat - 'A'.toNat + 10)
  else none

def digitOf? (base : Nat) (c : Char) : Option Nat :=
  (hexDigit? c).filter (· < base)

-- The digits behind a first one. An underscore must stand between two digits.
def digitTail (base : Nat) : Reader (List Nat)
  | [] => some ([], [])
  | '_' :: [] => none
  | '_' :: c :: rest =>
    match digitOf? base c with
    | some d => (digitTail base rest).map fun r => (d :: r.1, r.2)
    | none => none
  | c :: rest =>
    match digitOf? base c with
    | some d => (digitTail base rest).map fun r => (d :: r.1, r.2)
    | none => some ([], c :: rest)

def digits (base : Nat) : Reader (List Nat)
  | [] => none
  | c :: rest =>
    match digitOf? base c with
    | some d => (digitTail base rest).map fun r => (d :: r.1, r.2)
    | none => none

def valueOf (base : Nat) (ds : List Nat) : Nat :=
  ds.foldl (fun n d => n * base + d) 0

def sign : List Char → Bool × List Char
  | '-' :: rest => (true, rest)
  | '+' :: rest => (false, rest)
  | text => (false, text)

-- Decimal digits without a leading zero.
def decimal : Reader (List Nat)
  | '0' :: rest => some ([0], rest)
  | text => digits 10 text

-- Integers have 64 bits.
def integerOf (negative : Bool) (n : Nat) : Option Value :=
  let v : Int := if negative then -n else n
  if -0x8000000000000000 ≤ v ∧ v < 0x8000000000000000 then some (.integer v) else none

-- Whether the decimal digits times a power of ten are too large for a double: half a unit above the
-- largest finite one, or more.
def overflows (ds : List Nat) (exponent : Int) : Bool :=
  let ds := ds.dropWhile (· == 0)
  let magnitude : Int := ds.length + exponent
  if ds.isEmpty || magnitude < 300 then false
  else if magnitude > 320 then true
  else
    let n := valueOf 10 ds
    let limit := (Nat.pow 2 54 - 1) * Nat.pow 2 970
    let scale := Nat.pow 10 exponent.natAbs
    if exponent < 0 then limit * scale ≤ n else limit ≤ n * scale

def fraction : Reader (List Nat)
  | '.' :: rest => digits 10 rest
  | text => some ([], text)

def isExponentMark (c : Char) : Bool :=
  c == 'e' || c == 'E'

def exponent : Reader Int
  | [] => some (0, [])
  | c :: rest =>
    if isExponentMark c then
      let (negative, rest) := sign rest
      (digits 10 rest).map fun r =>
        let n : Int := valueOf 10 r.1
        (if negative then -n else n, r.2)
    else some (0, c :: rest)

def isFloatMark (c : Char) : Bool :=
  c == '.' || isExponentMark c

-- What a reader has consumed, as text.
def consumed (text rest : List Char) : String :=
  String.ofList (text.take (text.length - rest.length))

def special : List Char → Option (List Char)
  | 'i' :: 'n' :: 'f' :: rest => some rest
  | 'n' :: 'a' :: 'n' :: rest => some rest
  | _ => none

def radixInteger (base : Nat) : Reader Value := fun text => do
  let (ds, rest) ← digits base text
  let v ← integerOf false (valueOf base ds)
  return (v, rest)

def signedNumber (text : List Char) : Option (Value × List Char) := do
  let (negative, unsigned) := sign text
  match special unsigned with
  | some rest => return (.float (consumed text rest), rest)
  | none =>
    let (whole, rest) ← decimal unsigned
    if (rest.head?.map isFloatMark).getD false then
      let (part, rest) ← fraction rest
      let (power, rest) ← exponent rest
      -- a large negative number is negative infinity, a large positive one is refused
      if !negative && overflows (whole ++ part) (power - part.length) then none
      else return (.float (consumed text rest), rest)
    else
      let v ← integerOf negative (valueOf 10 whole)
      return (v, rest)

def number : Reader Value
  | '0' :: 'x' :: rest => radixInteger 16 rest
  | '0' :: 'o' :: rest => radixInteger 8 rest
  | '0' :: 'b' :: rest => radixInteger 2 rest
  | text => signedNumber text

-- Dates and times.

-- A number of exactly `n` digits in a range.
def fixedNumber (n low high : Nat) (text : List Char) : Option (Nat × List Char) := do
  let ds ← (text.take n).mapM (digitOf? 10)
  let v := valueOf 10 ds
  if ds.length = n ∧ low ≤ v ∧ v ≤ high then some (v, text.drop n) else none

def expect (c : Char) : List Char → Option (List Char)
  | d :: rest => if c = d then some rest else none
  | [] => none

def daysInMonth (year month : Nat) : Nat :=
  if month = 2 then
    if year % 4 = 0 ∧ (year % 100 ≠ 0 ∨ year % 400 = 0) then 29 else 28
  else if month = 4 ∨ month = 6 ∨ month = 9 ∨ month = 11 then 30
  else 31

def calendarDate? (text : List Char) : Option (List Char) := do
  let (year, rest) ← fixedNumber 4 0 9999 text
  let rest ← expect '-' rest
  let (month, rest) ← fixedNumber 2 1 12 rest
  let rest ← expect '-' rest
  let (_, rest) ← fixedNumber 2 1 (daysInMonth year month) rest
  return rest

def secondFraction? : List Char → Option (List Char)
  | '.' :: c :: rest =>
    if c.isDigit then some (rest.dropWhile Char.isDigit) else none
  | '.' :: [] => none
  | text => some text

-- A leap second is in order.
def clockTime? (text : List Char) : Option (List Char) := do
  let (_, rest) ← fixedNumber 2 0 23 text
  let rest ← expect ':' rest
  let (_, rest) ← fixedNumber 2 0 59 rest
  let rest ← expect ':' rest
  let (_, rest) ← fixedNumber 2 0 60 rest
  secondFraction? rest

def offset? : List Char → Option (List Char)
  | 'Z' :: rest => some rest
  | 'z' :: rest => some rest
  | c :: rest =>
    if c = '+' ∨ c = '-' then do
      let (_, rest) ← fixedNumber 2 0 23 rest
      let rest ← expect ':' rest
      let (_, rest) ← fixedNumber 2 0 59 rest
      return rest
    else none
  | [] => none

def isTimeMark (c : Char) : Bool :=
  c == 'T' || c == 't' || c == ' '

-- A time behind a date, with an offset if there is one.
def timeOfDay? : List Char → Option (List Char)
  | c :: rest =>
    if isTimeMark c then
      (clockTime? rest).map fun rest => (offset? rest).getD rest
    else none
  | [] => none

def date? (text : List Char) : Option (List Char) :=
  match calendarDate? text with
  | some rest => some ((timeOfDay? rest).getD rest)
  | none => clockTime? text

def dateOrNumber (text : List Char) : Option (Value × List Char) :=
  match date? text with
  | some rest => some (.date (consumed text rest), rest)
  | none => number text

-- Strings.

def hexNumber (n : Nat) (text : List Char) : Option (Nat × List Char) := do
  let ds ← (text.take n).mapM hexDigit?
  if ds.length = n then some (valueOf 16 ds, text.drop n) else none

-- A character by its number. Surrogates and numbers that are too large are no characters.
def scalar (n : Nat) (text : List Char) : Option (Char × List Char) := do
  let (v, rest) ← hexNumber n text
  if h : v.isValidChar then some (Char.ofNatAux v h, rest) else none

-- What stands behind a backslash.
def escape : Reader Char
  | 'b' :: rest => some ('\x08', rest)
  | 'f' :: rest => some ('\x0C', rest)
  | 'n' :: rest => some ('\n', rest)
  | 'r' :: rest => some ('\r', rest)
  | 't' :: rest => some ('\t', rest)
  | '\\' :: rest => some ('\\', rest)
  | '"' :: rest => some ('"', rest)
  | 'u' :: rest => scalar 4 rest
  | 'U' :: rest => scalar 8 rest
  | _ => none

-- A backslash at the end of a line takes away the line end and all blanks and line ends behind it.
def skipContinuation (text : List Char) : Option (List Char) :=
  (newline? (skipSpace text)).map fun rest => skipEmptyLines rest.length rest
where
  skipEmptyLines : Nat → List Char → List Char
    | 0, text => text
    | fuel + 1, text =>
      match newline? (skipSpace text) with
      | some rest => skipEmptyLines fuel rest
      | none => skipSpace text

-- One string between quotes on one line. The fuel is the length of the text, and every round takes
-- at least one character.
def basicBody : Nat → Reader (List Char)
  | 0, _ => none
  | _ + 1, [] => none
  | _ + 1, '"' :: rest => some ([], rest)
  | fuel + 1, '\\' :: rest => do
    let (c, rest) ← escape rest
    let (cs, rest) ← basicBody fuel rest
    return (c :: cs, rest)
  | fuel + 1, c :: rest =>
    if isPlain c then (basicBody fuel rest).map fun r => (c :: r.1, r.2) else none

def literalBody : Reader (List Char)
  | [] => none
  | '\'' :: rest => some ([], rest)
  | c :: rest =>
    if isPlain c then (literalBody rest).map fun r => (c :: r.1, r.2) else none

-- How many quotes end here: up to two of them are part of the string that three more close.
def quoteRun (q : Char) (text : List Char) : Nat :=
  (text.takeWhile (· == q)).length

-- A string over several lines. A run of one or two quotes belongs to it; of a longer run the last
-- three close it, and at most two more belong to it.
def multilineBody (q : Char) (escapes : Bool) : Nat → Reader (List Char)
  | 0, _ => none
  | _ + 1, [] => none
  | fuel + 1, c :: rest =>
    if c = q then
      let n := quoteRun q (c :: rest)
      if n < 3 then (multilineBody q escapes fuel rest).map fun r => (q :: r.1, r.2)
      else
        let kept := min (n - 3) 2
        some (List.replicate kept q, (c :: rest).drop (kept + 3))
    else if c = '\\' && escapes then
      match skipContinuation rest with
      | some rest => multilineBody q escapes fuel rest
      | none => do
        let (e, rest) ← escape rest
        let (cs, rest) ← multilineBody q escapes fuel rest
        return (e :: cs, rest)
    else
      match newline? (c :: rest) with
      | some rest => (multilineBody q escapes fuel rest).map fun r => ('\n' :: r.1, r.2)
      | none =>
        if isPlain c then (multilineBody q escapes fuel rest).map fun r => (c :: r.1, r.2) else none

-- A line end directly behind the opening quotes does not belong to the string.
def multiline (q : Char) (escapes : Bool) (text : List Char) : Option (List Char × List Char) :=
  let text := (newline? text).getD text
  multilineBody q escapes (text.length + 1) text

def string : Reader String := fun text =>
  let body : Option (List Char × List Char) :=
    match text with
    | '"' :: '"' :: '"' :: rest => multiline '"' true rest
    | '"' :: rest => basicBody (rest.length + 1) rest
    | '\'' :: '\'' :: '\'' :: rest => multiline '\'' false rest
    | '\'' :: rest => literalBody rest
    | _ => none
  body.map fun r => (String.ofList r.1, r.2)

-- Keys.

def isBareKey (c : Char) : Bool :=
  c.isAlphanum || c == '_' || c == '-'

def bareKey (text : List Char) : Option (String × List Char) :=
  match text.takeWhile isBareKey with
  | [] => none
  | cs => some (String.ofList cs, text.dropWhile isBareKey)

-- A quoted key stays on its line.
def simpleKey : Reader String
  | '"' :: rest => (basicBody (rest.length + 1) rest).map fun r => (String.ofList r.1, r.2)
  | '\'' :: rest => (literalBody rest).map fun r => (String.ofList r.1, r.2)
  | text => bareKey text

def keyParts : Nat → Reader (List String)
  | 0, _ => none
  | fuel + 1, text => do
    let (part, rest) ← simpleKey (skipSpace text)
    match skipSpace rest with
    | '.' :: rest =>
      let (parts, rest) ← keyParts fuel rest
      return (part :: parts, rest)
    | rest => return ([part], rest)

-- The limit on the parts of a key and on the depth of arrays and inline tables.
def depthLimit : Nat := 80

-- A dotted key, as its path and its last part.
def key (text : List Char) : Option ((List String × String) × List Char) := do
  let (parts, rest) ← keyParts depthLimit text
  let last ← parts.getLast?
  if parts.length < depthLimit then some ((parts.dropLast, last), rest) else none

end TermBridge.Toml
