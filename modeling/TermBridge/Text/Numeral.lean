namespace TermBridge.Numeral

def padLeft (width : Nat) (fill : Char) (digits : List Char) : List Char :=
  List.replicate (width - digits.length) fill ++ digits

def decimal (n : Nat) : List Char :=
  Nat.toDigits 10 n

def octal (n : Nat) : List Char :=
  Nat.toDigits 8 n

-- Hexadecimal digits are lower case.
def hex (n : Nat) : List Char :=
  Nat.toDigits 16 n

def digit? (base : Nat) (c : Char) : Option Nat :=
  let v? : Option Nat :=
    if c.isDigit then some (c.toNat - '0'.toNat)
    else if 'a' ≤ c && c ≤ 'f' then some (c.toNat - 'a'.toNat + 10)
    else if 'A' ≤ c && c ≤ 'F' then some (c.toNat - 'A'.toNat + 10)
    else none
  v?.filter (· < base)

def isDigit (base : Nat) (c : Char) : Bool :=
  (digit? base c).isSome

-- The digits in front of a text.
def digits (base : Nat) (text : List Char) : List Nat × List Char :=
  ((text.takeWhile (isDigit base)).filterMap (digit? base), text.dropWhile (isDigit base))

def ofDigits (base : Nat) (ds : List Nat) : Nat :=
  ds.foldl (fun n d => n * base + d) 0

-- The number that a whole text of digits stands for.
def value? (base : Nat) (text : List Char) : Option Nat :=
  match digits base text with
  | (d :: ds, []) => some (ofDigits base (d :: ds))
  | _ => none

-- A numeral whose base shows in its beginning: a zero in front makes it octal, and a letter behind the
-- zero hexadecimal.
def baseOf (text : List Char) : Nat × List Char :=
  match text with
  | '0' :: x :: c :: rest =>
    if (x = 'x' || x = 'X') && isDigit 16 c then (16, c :: rest) else (8, text)
  | '0' :: _ => (8, text)
  | _ => (10, text)

end TermBridge.Numeral
