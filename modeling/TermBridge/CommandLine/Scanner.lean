import TermBridge.CommandLine.Encode

namespace TermBridge.CommandLine

inductive Mode where
  | between
  | unquoted
  | quoted
  | justClosed
  deriving DecidableEq, Repr

-- The mode once a character that is neither blank nor quote has been read.
def Mode.entered : Mode → Mode
  | .quoted => .quoted
  | _ => .unquoted

structure Scanner where
  mode : Mode
  -- The backslashes that have been read and not been written.
  pending : Nat
  -- The current argument and the finished ones, both written backwards.
  current : List Char
  done : List (List Char)
  deriving DecidableEq, Repr

namespace Scanner

def start : Scanner := ⟨.between, 0, [], []⟩

def push (s : Scanner) (n : Nat) (chars : List Char) : List Char :=
  chars ++ backslashes n ++ s.current

def step (s : Scanner) (c : Char) : Scanner :=
  if c = '\\' then { s with mode := Mode.entered s.mode, pending := s.pending + 1 }
  else if c = '"' then
    if s.pending % 2 = 1 then
      { s with mode := Mode.entered s.mode, pending := 0, current := s.push (s.pending / 2) ['"'] }
    else
      match s.mode with
      | .quoted => { s with mode := .justClosed, pending := 0, current := s.push (s.pending / 2) [] }
      | .justClosed =>
        { s with mode := .quoted, pending := 0, current := s.push 0 ['"'] }
      | _ => { s with mode := .quoted, pending := 0, current := s.push (s.pending / 2) [] }
  else if isBlank c then
    match s.mode with
    | .between => s
    | .quoted => { s with pending := 0, current := s.push s.pending [c] }
    | _ => ⟨.between, 0, [], (s.push s.pending []).reverse :: s.done⟩
  else { s with mode := Mode.entered s.mode, pending := 0, current := s.push s.pending [c] }

-- The end of the text ends an open argument, quoted or not.
def finish (s : Scanner) : List (List Char) :=
  match s.mode with
  | .between => s.done.reverse
  | _ => ((s.push s.pending []).reverse :: s.done).reverse

def scan (text : List Char) : Scanner :=
  text.foldl step start

def EndsOutsideQuotes (text : List Char) : Prop :=
  (scan text).mode ≠ .quoted

end Scanner

end TermBridge.CommandLine
