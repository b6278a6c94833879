import TermBridge.Forward.Sink
import TermBridge.Terminal.Modes
import TermBridge.Text.Numeral

namespace TermBridge.KeyDump

def banner : Bytes :=
  Utf8.encode "\nPress any keys -- Ctrl-D exits\n\n"

-- Control-D.
def endOfTransmission : UInt8 := 4

-- The letter that stands for a control character behind a caret.
def caretLetter? (b : UInt8) : Option UInt8 :=
  if b < 32 then some (b + 64) else if b = 127 then some 63 else none

def shown (b : UInt8) : Bytes :=
  match caretLetter? b with
  | some letter => [94, letter]
  | none => [b]

def rowText (b : UInt8) : List Char :=
  '\t' :: (Numeral.padLeft 3 ' ' (Numeral.decimal b.toNat) ++
    ' ' :: (Numeral.padLeft 4 '0' (Numeral.octal b.toNat) ++
      ' ' :: '0' :: 'x' :: (Numeral.padLeft 2 '0' (Numeral.hex b.toNat) ++ ['\n'])))

-- All characters of a row are ASCII, so each is one byte.
def row (b : UInt8) : Bytes :=
  (rowText b).map fun c => UInt8.ofNat c.toNat

def render (chunk : Bytes) : Bytes :=
  chunk.flatMap shown ++ chunk.flatMap row

def readSize : Nat := 128

-- A read that returns bytes returns at least one. One that returns none has come to the end of the input.
inductive KeyRead where
  | chunk (first : UInt8) (others : Bytes)
  | endOfInput
  | failed (e : Errno)
  deriving DecidableEq, Repr

inductive Error where
  | banner
  | capture (err : ModeError)
  | restore (err : RestoreError)
  | dump
  deriving DecidableEq, Repr

-- A banner that could not be written is told of in the words of the failure itself, which the output does not
-- pass on.
def Error.message? : Error → Option String
  | .banner => none
  | .capture err => some err.message
  | .restore err => some err.message
  | .dump => some "writing key dump"

-- What a run does, with what came of it.
inductive Event where
  | print (text : Bytes) (worked : Bool)
  | capture (worked : Bool)
  | read (answer : KeyRead)
  | restore (worked : Bool)
  deriving DecidableEq, Repr

-- What a run works on, and the record of what it has done so far.
structure World where
  sink : Sink
  terminals : Terminals
  events : List Event := []

namespace World

def record (w : World) (event : Event) : World :=
  { w with events := w.events ++ [event] }

def print (w : World) (text : Bytes) : Bool × World :=
  match w.sink.put text with
  | (sink, worked) => (worked, { w with sink := sink }.record (.print text worked))

-- Only the input stream is captured.
def capture (w : World) (streams : Streams) (allowNonTtys : Bool) : Except ModeError SavedModes × World :=
  match SavedModes.capture streams { allowNonTtys := allowNonTtys } w.terminals with
  | (answer, terminals) => (answer, { w with terminals := terminals }.record (.capture answer.isOk))

def restore (w : World) (modes : SavedModes) : Except RestoreError Unit × World :=
  match modes.restore w.terminals with
  | (answer, terminals) => (answer, { w with terminals := terminals }.record (.restore answer.isOk))

end World

-- Prints chunk after chunk. The answer is whether all writes worked, and what the reads that were not made
-- would have returned. Behind the last read the input has ended.
def dump (w : World) : List KeyRead → Bool × World × List KeyRead
  | [] => (true, w.record (.read .endOfInput), [])
  | .endOfInput :: rest => (true, w.record (.read .endOfInput), rest)
  | .failed e :: rest => (true, w.record (.read (.failed e)), rest)
  | .chunk first others :: rest =>
    match (w.record (.read (.chunk first others))).print (render (first :: others)) with
    | (false, w) => (false, w, rest)
    | (true, w) => if first = endOfTransmission then (true, w, rest) else dump w rest

structure Outcome extends World where
  result : Except Error Unit
  -- The reads that were not made.
  unread : List KeyRead

-- A restoring that fails is told of before a write that did not work.
def resultOf (restored : Except RestoreError Unit) (wrote : Bool) : Except Error Unit :=
  match restored with
  | .error err => .error (.restore err)
  | .ok () => if wrote then .ok () else .error .dump

-- `meanwhile` is what others do to the terminals between the capture and the restoring.
def run (streams : Streams) (allowNonTtys : Bool) (terminals : Terminals) (sink : Sink)
    (reads : List KeyRead) (meanwhile : Terminals → Terminals := id) : Outcome :=
  match World.print ⟨sink, terminals, []⟩ banner with
  | (false, w) => ⟨w, .error .banner, reads⟩
  | (true, w) =>
    match w.capture streams allowNonTtys with
    | (.error err, w) => ⟨w, .error (.capture err), reads⟩
    | (.ok modes, w) =>
      let (wrote, w, unread) := dump { w with terminals := meanwhile w.terminals } reads
      let (restored, w) := w.restore modes
      ⟨w, resultOf restored wrote, unread⟩

end TermBridge.KeyDump
