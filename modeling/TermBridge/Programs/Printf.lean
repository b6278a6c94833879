import TermBridge.Programs.Escapes
import TermBridge.Programs.Output
import TermBridge.Text.ShellQuoted

namespace TermBridge.Programs.Printf

structure Flags where
  left : Bool := false
  zero : Bool := false
  plus : Bool := false
  space : Bool := false
  alternate : Bool := false
  grouped : Bool := false
  deriving DecidableEq, Repr

-- A width or precision: absent, a number, taken from the arguments, or something that makes no sense.
inductive Extent where
  | absent
  | fixed (n : Nat)
  | argument
  | senseless
  deriving DecidableEq, Repr

structure Conversion where
  -- The text of the conversion, without a size and the letter.
  spec : List Char
  flags : Flags
  width : Extent
  precision : Extent
  kind : Char
  deriving DecidableEq, Repr

inductive Piece where
  | text (s : List Char)
  | conversion (c : Conversion)
  | stop
  -- Ends everything with a complaint.
  | invalid (complaint : String)
  deriving DecidableEq, Repr

-- Formats.

def flag? (d : Dialect) (f : Flags) (c : Char) : Option Flags :=
  match c with
  | '-' => some { f with left := true }
  | '0' => some { f with zero := true }
  | '+' => some { f with plus := true }
  | ' ' => some { f with space := true }
  | '#' => some { f with alternate := true }
  | '\'' | 'I' => if d = .standalone then some { f with grouped := true } else none
  | _ => none

def flags (d : Dialect) (f : Flags) : List Char → Flags × List Char
  | [] => (f, [])
  | c :: rest =>
    match flag? d f c with
    | some f => flags d f rest
    | none => (f, c :: rest)

def digits (text : List Char) : Extent :=
  if text.isEmpty then .absent
  else if text.contains '*' then .senseless
  else .fixed (Escapes.number 10 (text.map fun c => c.toNat - '0'.toNat))

-- The shell's own one takes any mixture of digits and stars.
def extent (d : Dialect) (text : List Char) : Extent × List Char :=
  match text with
  | '*' :: rest => (.argument, rest)
  | text =>
    let belongs (c : Char) := c.isDigit || (d = .builtin && c == '*')
    (digits (text.takeWhile belongs), text.dropWhile belongs)

def precision (d : Dialect) (text : List Char) : Extent × List Char :=
  match text with
  | '.' :: rest =>
    match extent d rest with
    | (.absent, rest) => (.fixed 0, rest)
    | r => r
  | text => (.absent, text)

def isInteger (kind : Char) : Bool :=
  "diouxX".toList.contains kind

def isReal (kind : Char) : Bool :=
  "aAeEfFgG".toList.contains kind

def isKnown (d : Dialect) (kind : Char) : Bool :=
  isInteger kind || isReal kind || kind == 's' || kind == 'c' || (d = .builtin && kind == 'b')

-- Flags that mean nothing for a conversion.
def Conversion.isMeaningful (c : Conversion) : Bool :=
  !(c.flags.grouped && !"diufFgG".toList.contains c.kind) &&
    !(c.flags.alternate && "cdisu".toList.contains c.kind) &&
    !(c.flags.zero && (c.kind == 'c' || c.kind == 's')) &&
    !(c.kind == 'c' && c.precision ≠ .absent)

def isSize (c : Char) : Bool :=
  "hlLjzt".toList.contains c

def skipSize (d : Dialect) (text : List Char) : List Char :=
  if d = .builtin then text else text.dropWhile isSize

def invalidConversion (d : Dialect) (spec : List Char) : Piece :=
  .invalid (String.ofList spec ++
    (if d = .builtin then ": invalid directive" else ": invalid conversion specification"))

def conversion (d : Dialect) (text : List Char) : Piece × List Char :=
  let (f, afterFlags) := flags d {} text
  let (w, afterWidth) := extent d afterFlags
  let (p, afterPrecision) := precision d afterWidth
  let upTo (rest : List Char) := '%' :: text.take (text.length - rest.length)
  match skipSize d afterPrecision with
  | c :: rest =>
    let made : Conversion := ⟨upTo afterPrecision, f, w, p, c⟩
    if isKnown d c && (d = .builtin || made.isMeaningful) then (.conversion made, rest)
    else (invalidConversion d (upTo rest), [])
  | [] =>
    (if d = .builtin then .invalid "missing format character" else invalidConversion d (upTo []), [])

-- A conversion that a program of its own knows without flags alone.
def bare (kind : Char) : Piece :=
  .conversion ⟨['%'], {}, .absent, .absent, kind⟩

-- Cuts a format into its pieces. The fuel is the length of the text.
def pieces (d : Dialect) : Nat → List Char → List Piece
  | 0, _ => []
  | _ + 1, [] => []
  | fuel + 1, '%' :: rest =>
    match rest with
    | '%' :: rest => .text ['%'] :: pieces d fuel rest
    | c :: more =>
      if d = .standalone && (c = 'b' || c = 'q') then bare c :: pieces d fuel more
      else
        let (piece, rest) := conversion d rest
        piece :: pieces d fuel rest
    | [] => [(conversion d []).1]
  | fuel + 1, '\\' :: rest =>
    match Escapes.read d .format rest with
    | .chars cs rest => .text cs :: pieces d fuel rest
    | .stop => [.stop]
    | .wrong complaint => [.invalid complaint]
  | fuel + 1, c :: rest => .text [c] :: pieces d fuel rest

-- Numbers.

def isSigned (kind : Char) : Bool :=
  kind == 'd' || kind == 'i'

def mostSigned : Int := 0x7FFFFFFFFFFFFFFF

def leastSigned : Int := -0x8000000000000000

def mostUnsigned : Nat := 0xFFFFFFFFFFFFFFFF

-- Numbers have 64 bits. Those that have more become the nearest one.
def limited (signed : Bool) (v : Int) : Int :=
  if signed then max leastSigned (min v mostSigned)
  else if v.natAbs ≤ mostUnsigned then v else mostUnsigned

-- Negative numbers are written in 64 bits by the unsigned conversions.
def unsigned (v : Int) : Nat :=
  (v % 0x10000000000000000).toNat

-- The integer that a text begins with, and what follows it.
def readInteger (text : List Char) : Int × List Char :=
  let (negative, body) := Real.sign (text.dropWhile Real.isSpace)
  let (base, body) := Numeral.baseOf body
  match Numeral.digits base body with
  | ([], _) => (0, text)
  | (ds, rest) =>
    let n : Int := Escapes.number base ds
    (if negative then -n else n, rest)

-- The code of a character behind a quote.
def code? (d : Dialect) (text : List Char) : Option (Nat × List Char) :=
  match text with
  | q :: rest =>
    if q ≠ '\'' && q ≠ '"' then none
    else
      match rest with
      | c :: rest => some (c.toNat, rest)
      | [] => if d = .builtin then some (0, []) else none
  | [] => none

inductive Fault where
  | noNumber
  | partly
  | range
  deriving DecidableEq, Repr

def Fault.complaint (d : Dialect) (arg : String) (f : Fault) : String :=
  match d, f with
  | .standalone, .noNumber => ShellQuoted.encode arg ++ ": expected a numeric value"
  | .standalone, .partly => ShellQuoted.encode arg ++ ": value not completely converted"
  | .standalone, .range => ShellQuoted.encode arg ++ ": Numerical result out of range"
  | .builtin, .noNumber => arg ++ ": expected numeric value"
  | .builtin, .partly => arg ++ ": not completely converted"
  | .builtin, .range => arg ++ ": Numerical result out of range"

-- The first fault of a number that was read from `text` up to `rest`. The two kinds of programs look
-- at the range first, and last.
def fault? (d : Dialect) (text rest : List Char) (outOfRange : Bool) : Option Fault :=
  let incomplete : Option Fault := if rest.isEmpty then none
    else some (if rest = text then .noNumber else .partly)
  let range : Option Fault := if outOfRange then some .range else none
  if d = .standalone then range.or incomplete else incomplete.or range

-- What a run of the format has come to.
structure State where
  prints : List Print := []
  args : List String
  stopped : Bool := false
  status : Nat := 0

namespace State

def out (s : State) (text : List Char) : State :=
  { s with prints := .out (String.ofList text) :: s.prints }

def err (s : State) (front text : String) : State :=
  { s with prints := .err (front ++ text ++ "\n") :: s.prints }

def complain (s : State) (front : String) (status : Nat) (text : String) : State :=
  { s.err front text with status := status }

def abort (s : State) (front : String) (status : Nat) (text : String) : State :=
  { s.complain front status text with stopped := true }

def next (s : State) : Option String × State :=
  match s.args with
  | [] => (none, s)
  | arg :: rest => (some arg, { s with args := rest })

end State

def ignoredText (rest : List Char) : String :=
  "warning: " ++ String.ofList rest ++
    ": character(s) following character constant have been ignored"

-- A number from an argument. `read` gives the value, what follows it, and whether it is out of range.
def numberOf {α : Type} (d : Dialect) (front : String) (s : State) (arg : Option String)
    (ofCode : Nat → α) (zero : α) (read : List Char → α × List Char × Bool) : α × State :=
  match arg with
  | none => (zero, s)
  | some arg =>
    let text := arg.toList
    match code? d text with
    | some (n, rest) =>
      (ofCode n, if d = .standalone && !rest.isEmpty then s.err front (ignoredText rest) else s)
    | none =>
      let (v, rest, outOfRange) := read text
      match fault? d text rest outOfRange with
      | some f => (v, s.complain front 1 (f.complaint d arg))
      | none => (v, s)

def integerOf (d : Dialect) (front : String) (signed : Bool) (s : State) (arg : Option String) :
    Int × State :=
  numberOf d front s arg (fun n => n) 0 fun text =>
    let (v, rest) := readInteger text
    let kept := limited signed v
    (kept, rest, kept ≠ v)

structure RealNumber where
  negative : Bool := false
  value : Real.Value
  deriving DecidableEq, Repr

def formatOf (d : Dialect) : Real.Format :=
  if d = .standalone then .extended else .double

def realOf (d : Dialect) (front : String) (s : State) (arg : Option String) : RealNumber × State :=
  let f := formatOf d
  let ofNat (n : Nat) : RealNumber := ⟨false, (f.round n 1).1⟩
  numberOf d front s arg ofNat (ofNat 0) fun text =>
    match Real.read? text with
    | none => (ofNat 0, text, false)
    | some (literal, rest) =>
      let (value, outOfRange) := f.value literal.magnitude
      (⟨literal.negative, value⟩, rest, outOfRange)

-- Writing.

def pad (f : Flags) (width : Nat) (text : List Char) : List Char :=
  let fill := List.replicate (width - text.length) ' '
  if f.left then text ++ fill else fill ++ text

-- A number with what stands in front of its digits. Zeros that fill the width stand in between.
def padNumber (f : Flags) (zeros : Bool) (width : Nat) (front digits : List Char) : List Char :=
  if zeros && f.zero && !f.left then front ++ Numeral.padLeft (width - front.length) '0' digits
  else pad f width (front ++ digits)

def signText (f : Flags) (negative : Bool) : List Char :=
  if negative then ['-'] else if f.plus then ['+'] else if f.space then [' '] else []

def digitsOf (kind : Char) (v : Int) : List Char :=
  if isSigned kind then Numeral.decimal v.natAbs
  else if kind = 'u' then Numeral.decimal (unsigned v)
  else if kind = 'o' then Numeral.octal (unsigned v)
  else if kind = 'x' then Numeral.hex (unsigned v)
  else (Numeral.hex (unsigned v)).map Char.toUpper

def integerText (f : Flags) (width : Nat) (precision : Option Nat) (kind : Char) (v : Int) :
    List Char :=
  let digits := digitsOf kind v
  let digits := if precision = some 0 && v = 0 then [] else digits
  let digits := Numeral.padLeft (precision.getD 1) '0' digits
  let digits := if f.alternate && kind = 'o' && digits.head? ≠ some '0' then '0' :: digits else digits
  let front := if isSigned kind then signText f (v < 0)
    else if f.alternate && v ≠ 0 && (kind = 'x' || kind = 'X') then ['0', kind]
    else []
  padNumber f precision.isNone width front digits

def isFinite : Real.Value → Bool
  | .finite _ _ => true
  | _ => false

def realText (d : Dialect) (f : Flags) (width : Nat) (precision : Option Nat) (kind : Char)
    (r : RealNumber) : List Char :=
  let text := Real.write (formatOf d) kind.toLower precision f.alternate r.value
  let text := if kind.isUpper then text.map Char.toUpper else text
  let front := signText f r.negative
  -- The sign of the base stands in front of the zeros.
  if (kind = 'a' || kind = 'A') && isFinite r.value then
    padNumber f true width (front ++ text.take 2) (text.drop 2)
  else padNumber f (isFinite r.value) width front text

-- Conversions.

def mostExtent : Int := 2147483647

-- A width or precision, or what is wrong with it.
def extentOf (d : Dialect) (front what : String) (s : State) : Extent → Except State (Option Int × State)
  | .absent | .senseless => .ok (none, s)
  | .fixed n =>
    if (n : Int) < mostExtent then .ok (some n, s)
    else .error (if d = .builtin then s.abort front 2 "xvsnprintf failed"
      else s.abort front 1 "write error")
  | .argument =>
    let (arg, s) := s.next
    let (v, s) := integerOf d front true s arg
    if -mostExtent ≤ v && v ≤ mostExtent then .ok (some v, s)
    else .error (s.abort front 1
      ("invalid " ++ what ++ ": " ++ ShellQuoted.encode (arg.getD "")))

def cut (precision : Option Nat) (text : List Char) : List Char :=
  match precision with
  | some n => text.take n
  | none => text

-- A conversion that makes no sense is printed as it is, with the size of its numbers.
def senselessText (c : Conversion) : List Char :=
  c.spec ++ (if isInteger c.kind then ['l', c.kind]
    else if c.kind = 'b' then ['s'] else [c.kind])

def Conversion.isSenseless (c : Conversion) : Bool :=
  c.width = .senseless || c.precision = .senseless

-- Text with its escapes replaced, fitted into its place.
def escapedText (d : Dialect) (front : String) (s : State) (f : Flags) (width : Nat)
    (precision : Option Nat) (arg : String) : State :=
  let (text, ending) := Escapes.replace d .argument arg
  let s := s.out (pad f width (cut precision text))
  match ending with
  | .complete => s
  | .stopped => { s with stopped := true, status := if d = .standalone then 0 else s.status }
  | .wrong complaint => s.abort front 1 complaint

def place (d : Dialect) (front : String) (s : State) (c : Conversion) (f : Flags) (width : Nat)
    (precision : Option Nat) : State :=
  let (arg, s) := s.next
  let text := (arg.getD "").toList
  if c.kind = 's' then s.out (pad f width (cut precision text))
  else if c.kind = 'c' then s.out (pad f width [text.headD '\x00'])
  else if c.kind = 'q' then s.out ((arg.map ShellQuoted.word).getD "").toList
  else if c.kind = 'b' then escapedText d front s f width precision (arg.getD "")
  else if isReal c.kind then
    let (r, s) := realOf d front s arg
    s.out (realText d f width precision c.kind r)
  else
    let (v, s) := integerOf d front (isSigned c.kind) s arg
    s.out (integerText f width precision c.kind v)

def convert (d : Dialect) (front : String) (s : State) (c : Conversion) : State :=
  match extentOf d front "field width" s c.width with
  | .error s => s
  | .ok (w, s) =>
    match extentOf d front "precision" s c.precision with
    | .error s => s
    | .ok (p, s) =>
      if c.isSenseless then (s.next.2).out (senselessText c)
      else
        let f := if w.getD 0 < 0 then { c.flags with left := true } else c.flags
        place d front s c f (w.getD 0).natAbs ((p.filter (0 ≤ ·)).map Int.toNat)

def pass (d : Dialect) (front : String) (s : State) : List Piece → State
  | [] => s
  | piece :: rest =>
    if s.stopped then s
    else
      match piece with
      | .text cs => pass d front (s.out cs) rest
      | .conversion c => pass d front (convert d front s c) rest
      | .stop => { s with stopped := true, status := 0 }
      | .invalid complaint => s.abort front (if d = .builtin then 2 else 1) complaint

-- The passes that use up the arguments. The fuel is their number.
def passes (d : Dialect) (front : String) (ps : List Piece) : Nat → State → State
  | 0, s => s
  | fuel + 1, s =>
    let after := pass d front s ps
    if after.stopped || after.args.isEmpty || after.args.length = s.args.length then after
    else passes d front ps fuel after

def excess (arg : String) : String :=
  "warning: ignoring excess arguments, starting with " ++ ShellQuoted.encode arg

-- The shell's own one keeps its output back, so its complaints come first.
def arrange (d : Dialect) (prints : List Print) : List Print :=
  match d with
  | .standalone => prints
  | .builtin => prints.filter Print.isError ++ prints.filter (!·.isError)

-- What a format and its arguments come to, with the exit code. Complaints begin with `front`.
def print (d : Dialect) (front format : String) (args : List String) : List Print × Nat :=
  let ps := pieces d (format.length + 1) format.toList
  let s := passes d front ps (args.length + 1) { args := args }
  let s := match d, s.stopped, s.args with
    | .standalone, false, arg :: _ => s.err front (excess arg)
    | _, _, _ => s
  (arrange d s.prints.reverse, s.status)

def run : Program := fun argv _ => do
  let name := argv.headD "printf"
  let args := match argv.drop 1 with
    | "--" :: args => args
    | args => args
  match args with
  | [] => fail 1 (name ++ ": missing operand\nTry '" ++ name ++ " --help' for more information.\n")
  | format :: args =>
    let (prints, code) := print .standalone (name ++ ": ") format args
    printAll name code prints

end TermBridge.Programs.Printf
