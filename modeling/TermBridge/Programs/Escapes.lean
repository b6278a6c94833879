import TermBridge.Text.Real

namespace TermBridge.Programs

inductive Dialect where
  | standalone
  | builtin
  deriving DecidableEq, Repr

namespace Escapes

-- Where the backslash stands: in a format, in an argument that a format refers to, or in plain text.
inductive Place where
  | format
  | argument
  | text
  deriving DecidableEq, Repr

-- What a backslash and the text behind it stand for.
inductive Escape where
  | chars (cs : List Char) (rest : List Char)
  -- Everything ends here.
  | stop
  -- This cannot be.
  | wrong (complaint : String)

def octet (n : Nat) : Char :=
  Char.ofNat (n % 256)

-- Up to `n` digits of a base, and what follows them.
def takeDigits (base n : Nat) (text : List Char) : List Nat × List Char :=
  let ds := (Numeral.digits base (text.take n)).1
  (ds, text.drop ds.length)

def number (base : Nat) (ds : List Nat) : Nat :=
  Numeral.ofDigits base ds

def simple? : Char → Option Char
  | 'a' => some '\x07'
  | 'b' => some '\x08'
  | 'f' => some '\x0C'
  | 'n' => some '\n'
  | 'r' => some '\r'
  | 't' => some '\t'
  | 'v' => some '\x0B'
  | '\\' => some '\\'
  | _ => none

def missingDigits : String := "missing hexadecimal number in escape"

-- A character by its number, as it is if it is a plain one, and as an escape otherwise.
def unicode (letter : Char) (digits n : Nat) (rest : List Char) : Escape :=
  if 0xD800 ≤ n && n ≤ 0xDFFF then
    .wrong ("invalid universal character name \\" ++ String.ofList
      (letter :: Numeral.padLeft digits '0' (Numeral.hex n)))
  else if n < 128 then .chars [Char.ofNat n] rest
  else
    let (letter, width) := if n < 0x10000 then ('u', 4) else ('U', 8)
    let ds := (Numeral.padLeft width '0' (Numeral.hex n)).map Char.toUpper
    .chars ('\\' :: letter :: ds) rest

def unicodeEscape (letter : Char) (text : List Char) : Escape :=
  let width := if letter = 'u' then 4 else 8
  let (ds, rest) := takeDigits 16 width text
  if ds.length < width then .wrong missingDigits else unicode letter width (number 16 ds) rest

def octal (text : List Char) : Escape :=
  let (ds, rest) := takeDigits 8 3 text
  .chars [octet (number 8 ds)] rest

def startsOctal (text : List Char) : Bool :=
  text.head?.any fun c => Numeral.isDigit 8 c

-- Nothing special: the backslash stands for itself.
def plain (text : List Char) : Escape :=
  .chars ['\\'] text

def read (d : Dialect) (place : Place) (text : List Char) : Escape :=
  match text with
  | [] => plain []
  | c :: rest =>
    match simple? c with
    | some e => .chars [e] rest
    | none =>
      if c = 'c' then
        if d = .builtin && place = .format then plain text else .stop
      else if c = '0' && place ≠ .format && startsOctal rest then octal rest
      else if startsOctal text then octal text
      else if c = 'e' then .chars ['\x1B'] rest
      else if d = .builtin then plain text
      else if c = '"' && place ≠ .text then .chars ['"'] rest
      else if c = 'x' then
        match takeDigits 16 2 rest with
        | ([], _) => if place = .text then plain text else .wrong missingDigits
        | (ds, rest) => .chars [octet (number 16 ds)] rest
      else if (c = 'u' || c = 'U') && place ≠ .text then unicodeEscape c rest
      else .chars ['\\', c] rest

-- Text with its escapes replaced, and why it ended before its end, if it did.
inductive Ending where
  | complete
  | stopped
  | wrong (complaint : String)
  deriving DecidableEq, Repr

-- The fuel is the length of the text.
def replaceFrom (d : Dialect) (place : Place) : Nat → List Char → List Char × Ending
  | 0, _ => ([], .complete)
  | _ + 1, [] => ([], .complete)
  | fuel + 1, '\\' :: rest =>
    match read d place rest with
    | .chars cs rest => (fun r => (cs ++ r.1, r.2)) (replaceFrom d place fuel rest)
    | .stop => ([], .stopped)
    | .wrong complaint => ([], .wrong complaint)
  | fuel + 1, c :: rest => (fun r => (c :: r.1, r.2)) (replaceFrom d place fuel rest)

def replace (d : Dialect) (place : Place) (text : String) : List Char × Ending :=
  replaceFrom d place (text.length + 1) text.toList

end Escapes

end TermBridge.Programs
