import TermBridge.Text.Numeral

namespace TermBridge.Log

inductive Level where
  | error
  | warn
  | info
  | debug
  | trace
  deriving DecidableEq, Repr

def Level.name : Level → String
  | .error => "ERROR"
  | .warn => "WARN"
  | .info => "INFO"
  | .debug => "DEBUG"
  | .trace => "TRACE"

-- The more a level lets through, the greater its number. Zero lets nothing through.
def Level.verbosity : Level → Nat
  | .error => 1
  | .warn => 2
  | .info => 3
  | .debug => 4
  | .trace => 5

structure Record where
  level : Level
  target : String
  message : String
  deriving DecidableEq, Repr

-- The controls that are written as escapes: the bell, backspace, form feed, escape and delete, and
-- those beyond ASCII.
def escapeChar (c : Char) : List Char :=
  let n := c.toNat
  if n = 7 ∨ n = 8 ∨ n = 12 ∨ n = 27 ∨ n = 127 then
    ['\\', 'x'] ++ Numeral.padLeft 2 '0' (Numeral.hex n)
  else if 128 ≤ n ∧ n < 160 then ['\\', 'u', '{'] ++ Numeral.hex n ++ ['}']
  else [c]

-- The part of a text in front of its first line break. A carriage return belongs to the break.
def firstLine (text : List Char) : List Char :=
  let line := text.takeWhile (· != '\n')
  if line.getLast? = some '\r' then line.dropLast else line

-- The line of a record. A message that goes on over more lines loses the others.
def Record.text (r : Record) : String :=
  r.level.name ++ " " ++ r.target ++ ": " ++
    String.ofList ((firstLine r.message.toList).flatMap escapeChar)

end TermBridge.Log
