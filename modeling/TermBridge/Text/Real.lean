import TermBridge.Text.Numeral

namespace TermBridge.Real

def power (base n : Nat) : Nat :=
  Nat.pow base n

-- The nearest number to a quotient.
def roundDiv (n d : Nat) : Nat :=
  let q := n / d
  let twice := 2 * (n % d)
  if twice < d || (twice = d && q % 2 = 0) then q else q + 1

-- Reading.

inductive Magnitude where
  -- A quotient.
  | finite (n d : Nat)
  | infinite
  | notANumber
  deriving DecidableEq, Repr

structure Literal where
  negative : Bool := false
  magnitude : Magnitude
  deriving DecidableEq, Repr

def isSpace (c : Char) : Bool :=
  c == ' ' || (9 ≤ c.toNat && c.toNat ≤ 13)

def sign (text : List Char) : Bool × List Char :=
  match text with
  | '-' :: rest => (true, rest)
  | '+' :: rest => (false, rest)
  | text => (false, text)

-- An exponent behind its letter, if there is one.
def exponent (letter : Char) (text : List Char) : Int × List Char :=
  match text with
  | c :: rest =>
    if c.toLower = letter then
      let (negative, body) := sign rest
      match Numeral.digits 10 body with
      | ([], _) => (0, text)
      | (ds, rest) =>
        let n : Int := Numeral.ofDigits 10 ds
        (if negative then -n else n, rest)
    else (0, text)
  | [] => (0, text)

-- Exponents beyond this leave nothing to compute.
def exponentLimit : Int := 20000

-- The number `n` times a power of `base`, where far too large exponents give an infinite number, and
-- far too small ones zero.
def scaled (n base : Nat) (e : Int) : Magnitude :=
  if n = 0 then .finite 0 1
  else if exponentLimit < e then .infinite
  else if e < -exponentLimit then .finite 0 1
  else if 0 ≤ e then .finite (n * power base e.toNat) 1
  else .finite n (power base (-e).toNat)

-- A numeral with a point and an exponent of another base. `weight` is what one digit counts in it.
def numeral? (base weight expBase : Nat) (letter : Char) (text : List Char) :
    Option (Magnitude × List Char) :=
  let (whole, rest) := Numeral.digits base text
  let (part, rest) := match rest with
    | '.' :: more => Numeral.digits base more
    | rest => ([], rest)
  if whole.isEmpty && part.isEmpty then none
  else
    let (e, rest) := exponent letter rest
    some (scaled (Numeral.ofDigits base (whole ++ part)) expBase (e - weight * part.length), rest)

def startsWith (word : String) (text : List Char) : Bool :=
  word.toList.isPrefixOf (text.map Char.toLower)

def magnitude? (text : List Char) : Option (Magnitude × List Char) :=
  if startsWith "infinity" text then some (.infinite, text.drop 8)
  else if startsWith "inf" text then some (.infinite, text.drop 3)
  else if startsWith "nan" text then some (.notANumber, text.drop 3)
  else
    let decimal := numeral? 10 1 10 'e' text
    match text with
    | '0' :: x :: rest =>
      if x = 'x' || x = 'X' then (numeral? 16 4 2 'p' rest).or decimal else decimal
    | _ => decimal

-- The number that a text begins with, and what follows it.
def read? (text : List Char) : Option (Literal × List Char) :=
  let (negative, body) := sign (text.dropWhile isSpace)
  (magnitude? body).map fun r => (⟨negative, r.1⟩, r.2)

-- Rounding.

-- Numbers of so many bits times a power of two between two bounds.
structure Format where
  bits : Nat
  least : Int
  most : Int

def Format.double : Format := ⟨53, -1074, 971⟩

def Format.extended : Format := ⟨64, -16445, 16320⟩

-- A number in a binary format: a significand times a power of two.
inductive Value where
  | finite (significand : Nat) (exponent : Int)
  | infinite
  | notANumber
  deriving DecidableEq, Repr

-- A quotient divided by a power of two, rounded.
def roundAt (n d : Nat) (e : Int) : Nat :=
  if 0 ≤ e then roundDiv n (d * power 2 e.toNat) else roundDiv (n * power 2 (-e).toNat) d

def floorAt (n d : Nat) (e : Int) : Nat :=
  if 0 ≤ e then n / (d * power 2 e.toNat) else n * power 2 (-e).toNat / d

def isExactAt (n d : Nat) (e : Int) : Bool :=
  if 0 ≤ e then n % (d * power 2 e.toNat) = 0 else n * power 2 (-e).toNat % d = 0

-- The nearest number of a format, and whether the number is out of the format's range.
def Format.round (f : Format) (n d : Nat) : Value × Bool :=
  if n = 0 then (.finite 0 f.least, false)
  else
    let guess : Int := (n.log2 : Int) - d.log2 - f.bits
    let e := if floorAt n d guess < power 2 f.bits then guess else guess + 1
    let small := e < f.least
    let e := max e f.least
    let q := roundAt n d e
    let (q, e) := if q = power 2 f.bits then (q / 2, e + 1) else (q, e)
    if f.most < e then (.infinite, true) else (.finite q e, small && !isExactAt n d e)

def Format.value (f : Format) : Magnitude → Value × Bool
  | .finite n d => f.round n d
  | .infinite => (.infinite, false)
  | .notANumber => (.notANumber, false)

-- Writing.

-- A finite number as a quotient.
def quotient (m : Nat) (e : Int) : Nat × Nat :=
  if 0 ≤ e then (m * power 2 e.toNat, 1) else (m, power 2 (-e).toNat)

def withPoint (whole part : List Char) (point : Bool) : List Char :=
  if part.isEmpty && !point then whole else whole ++ '.' :: part

-- With so many digits behind the point.
def fixed (n d precision : Nat) (point : Bool) : List Char :=
  let digits := Numeral.padLeft (precision + 1) '0'
    (Numeral.decimal (roundDiv (n * power 10 precision) d))
  let whole := digits.length - precision
  withPoint (digits.take whole) (digits.drop whole) point

-- The exponent of the first digit.
def magnitude (n d : Nat) : Int :=
  if n = 0 then 0
  else
    let guess : Int := (Numeral.decimal n).length - (Numeral.decimal d).length
    let reaches := if 0 ≤ guess then d * power 10 guess.toNat ≤ n
      else d ≤ n * power 10 (-guess).toNat
    if reaches then guess else guess - 1

-- The first digits of a number, rounded, and the exponent of the first one.
def leading (n d precision : Nat) : Nat × Int :=
  let e := magnitude n d
  let shift := (precision : Int) - e
  let q := if 0 ≤ shift then roundDiv (n * power 10 shift.toNat) d
    else roundDiv n (d * power 10 (-shift).toNat)
  if q = power 10 (precision + 1) then (q / 10, e + 1) else (q, e)

def exponentText (letter : Char) (width : Nat) (e : Int) : List Char :=
  letter :: (if e < 0 then '-' else '+') :: Numeral.padLeft width '0' (Numeral.decimal e.natAbs)

-- With one digit in front of the point, and an exponent.
def scientific (n d precision : Nat) (point : Bool) : List Char :=
  let (q, e) := leading n d precision
  let digits := Numeral.padLeft (precision + 1) '0' (Numeral.decimal q)
  withPoint (digits.take 1) (digits.drop 1) point ++ exponentText 'e' 2 e

def dropZeros (text : List Char) : List Char :=
  let text := (text.reverse.dropWhile (· == '0')).reverse
  if text.getLast? = some '.' then text.dropLast else text

-- Takes zeros away from the end of the part behind a point.
def trimZeros (text : List Char) : List Char :=
  let front := text.takeWhile (· != 'e')
  (if front.contains '.' then dropZeros front else front) ++ text.dropWhile (· != 'e')

-- With so many digits in all, in the shorter of the two ways. Zeros at the end are kept on demand.
def general (n d precision : Nat) (keepZeros : Bool) : List Char :=
  let precision := max precision 1
  let (_, e) := leading n d (precision - 1)
  let text := if -4 ≤ e && e < precision then fixed n d ((precision : Int) - 1 - e).toNat keepZeros
    else scientific n d (precision - 1) keepZeros
  if keepZeros then text else trimZeros text

-- In hexadecimal, with a power of two. The first digit is one where a significand has 53 bits, and
-- holds four bits of one that has 64.
def hexadecimal (f : Format) (m : Nat) (e : Int) (precision : Option Nat) (point : Bool) : List Char :=
  let places := (f.bits - 1) / 4
  let e := if m = 0 then 0 else e + 4 * places
  let kept := (precision.getD places).min places
  let q := roundDiv m (power 16 (places - kept))
  let first := q / power 16 kept
  let (first, e) := if first = 16 then (1, e + 4) else (first, e)
  let part := Numeral.padLeft kept '0' (Numeral.hex (q % power 16 kept))
  let part := if kept = 0 then [] else part
  let part := match precision with
    | none => (part.reverse.dropWhile (· == '0')).reverse
    | some p => part ++ List.replicate (p - kept) '0'
  ['0', 'x'] ++ withPoint (Numeral.hex first) part point ++ exponentText 'p' 1 e

-- One of the ways of writing by its letter.
def write (f : Format) (kind : Char) (precision : Option Nat) (point : Bool) : Value → List Char
  | .infinite => ['i', 'n', 'f']
  | .notANumber => ['n', 'a', 'n']
  | .finite m e =>
    let (n, d) := quotient m e
    match kind with
    | 'f' => fixed n d (precision.getD 6) point
    | 'e' => scientific n d (precision.getD 6) point
    | 'g' => general n d (precision.getD 6) point
    | _ => hexadecimal f m e precision point

end TermBridge.Real
