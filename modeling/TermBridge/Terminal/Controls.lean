namespace TermBridge

structure Controls where
  interrupt : Char := '\x03'
  quit : Char := '\x1C'
  erase : Char := '\x7F'
  kill : Char := '\x15'
  endOfFile : Char := '\x04'
  switch : Char := '\x00'
  start : Char := '\x11'
  stop : Char := '\x13'
  suspend : Char := '\x1A'
  endOfLine : Char := '\x00'
  reprint : Char := '\x12'
  discard : Char := '\x0F'
  wordErase : Char := '\x17'
  literalNext : Char := '\x16'
  secondEndOfLine : Char := '\x00'
  deriving DecidableEq, Repr

namespace Controls

def none : Char := '\x00'

-- Controls in the ordinary sense: they show as a caret and a letter.
def isControl (c : Char) : Bool :=
  c.toNat < 32 || c.toNat == 127

def letter (c : Char) : Char :=
  Char.ofNat (c.toNat ^^^ 64)

end Controls

end TermBridge
