import TermBridge.Unix.Signals
import TermBridge.Terminal.Attributes

namespace TermBridge

-- A typed character, and whether programs read no further than behind it.
structure Cell where
  char : Char
  ends : Bool := false
  deriving DecidableEq, Repr

-- What is to be shown in answer to typing.
inductive Echo where
  | plain (c : Char)
  | caret (c : Char)
  -- The cursor is one column further left than the characters in front have moved it.
  | backColumn
  -- The line begins in this column.
  | markColumn
  -- Goes back over a tab. The number tells how many columns the characters in front of the tab take,
  -- back to another tab or to the beginning of the line.
  | eraseTab (columns : Nat) (afterTab : Bool)
  deriving DecidableEq, Repr

structure LineDiscipline where
  attributes : Attributes := .standard
  -- What programs can read, oldest character first.
  ready : List Cell := []
  -- The line that is being typed, newest character first.
  line : List Cell := []
  -- How many characters there are in both.
  held : Nat := 0
  -- What has been typed while there was no room.
  waiting : List Char := []
  -- What is still to be shown, newest first.
  echoes : List Echo := []
  -- What has been shown and was not yet taken away, newest character first.
  shown : List Char := []
  shownCount : Nat := 0
  -- Where the cursor is, and where it was when the line began.
  column : Nat := 0
  markedColumn : Nat := 0
  -- An erased part is being shown between slashes.
  erasing : Bool := false
  -- The next character is taken as it is.
  literalNext : Bool := false
  -- Nothing is shown for the time being.
  stopped : Bool := false
  deriving DecidableEq, Repr

namespace LineDiscipline

-- How many characters are held, where one place is kept for the end of a line.
def capacity : Nat := 4096

def controls (d : LineDiscipline) : Controls :=
  d.attributes.controls

def isLocal (d : LineDiscipline) (bits : UInt32) : Bool :=
  d.attributes.hasLocal bits

def isInput (d : LineDiscipline) (bits : UInt32) : Bool :=
  d.attributes.hasInput bits

def isOutput (d : LineDiscipline) (bits : UInt32) : Bool :=
  d.attributes.hasOutput bits

def echoes? (d : LineDiscipline) : Bool :=
  d.isLocal Attributes.echo

def editsLines (d : LineDiscipline) : Bool :=
  d.isLocal Attributes.canonical

def isExtended (d : LineDiscipline) : Bool :=
  d.isLocal Attributes.extended

-- Letters and digits of Latin-1, and the underscore.
def isWordChar (c : Char) : Bool :=
  c.isAlphanum || c == '_' || (0xC0 ≤ c.toNat && c.toNat ≤ 0xFF && c.toNat ≠ 0xD7 && c.toNat ≠ 0xF7)

-- A byte that goes on with a character of several bytes.
def continues (d : LineDiscipline) (c : Char) : Bool :=
  d.isInput Attributes.multibyte && 0x80 ≤ c.toNat && c.toNat < 0xC0

-- Showing.

-- What has been shown, in the order it was shown.
def output (d : LineDiscipline) : List Char :=
  d.shown.reverse

def takeOutput (d : LineDiscipline) : List Char × LineDiscipline :=
  (d.output, { d with shown := [], shownCount := 0 })

-- Shows one character as it is.
def put (d : LineDiscipline) (c : Char) : LineDiscipline :=
  { d with shown := c :: d.shown, shownCount := d.shownCount + 1 }

def putAll (d : LineDiscipline) (text : List Char) : LineDiscipline :=
  text.foldl put d

def home (d : LineDiscipline) : LineDiscipline :=
  { d with column := 0, markedColumn := 0 }

def showNewline (d : LineDiscipline) : LineDiscipline :=
  let d := if d.isOutput Attributes.newlineReturns then { d with column := 0 } else d
  if d.isOutput Attributes.newlineToReturn then (d.putAll ['\r', '\n']).home
  else { d.put '\n' with markedColumn := d.column }

def showReturn (d : LineDiscipline) : LineDiscipline :=
  if d.isOutput Attributes.noReturnAtMargin && d.column == 0 then d
  else if d.isOutput Attributes.returnToNewlineOnOutput then
    (if d.isOutput Attributes.newlineReturns then d.home else d).put '\n'
  else d.home.put '\r'

def showTab (d : LineDiscipline) : LineDiscipline :=
  let width := 8 - d.column % 8
  let text := if d.attributes.oflag &&& Attributes.tabDelay = Attributes.tabDelay then
    List.replicate width ' ' else ['\t']
  { d.putAll text with column := d.column + width }

-- Letters of Latin-1 have their capitals 32 places in front of them.
def capital (c : Char) : Char :=
  let n := c.toNat
  if c.isLower || (0xDF ≤ n && n ≤ 0xFF && n ≠ 0xF7) then Char.ofNat (n - 32) else c

def small (c : Char) : Char :=
  let n := c.toNat
  if c.isUpper || (0xC0 ≤ n && n ≤ 0xDE && n ≠ 0xD7) then Char.ofNat (n + 32) else c

-- Shows one character of processed output.
def showChar (d : LineDiscipline) (c : Char) : LineDiscipline :=
  if c = '\n' then d.showNewline
  else if c = '\r' then d.showReturn
  else if c = '\t' then d.showTab
  else if c = '\x08' then { d.put c with column := d.column - 1 }
  else if Controls.isControl c then d.put c
  else
    let c := if d.isOutput Attributes.upperCaseOnOutput then capital c else c
    { d.put c with column := if d.continues c then d.column else d.column + 1 }

def processes (d : LineDiscipline) : Bool :=
  d.isOutput Attributes.postprocess

def showEcho (d : LineDiscipline) : Echo → LineDiscipline
  | .plain c => if d.processes then d.showChar c else d.put c
  | .caret c => { d.putAll ['^', Controls.letter c] with column := d.column + 2 }
  | .backColumn => { d with column := d.column - 1 }
  | .markColumn => { d with markedColumn := d.column }
  | .eraseTab columns afterTab =>
    let used := if afterTab then columns else columns + d.markedColumn
    let steps := 8 - used % 8
    { d.putAll (List.replicate steps '\x08') with column := d.column - steps }

def flushEchoes (d : LineDiscipline) : LineDiscipline :=
  if d.stopped then d else d.echoes.reverse.foldl showEcho { d with echoes := [] }

def print (d : LineDiscipline) (text : List Char) : LineDiscipline :=
  let d := d.flushEchoes
  text.foldl (if d.processes then showChar else put) d

def start (d : LineDiscipline) : LineDiscipline :=
  { d with stopped := false }.flushEchoes

-- Echoing.

def echo (d : LineDiscipline) (e : Echo) : LineDiscipline :=
  { d with echoes := e :: d.echoes }

def echoAll (d : LineDiscipline) (es : List Echo) : LineDiscipline :=
  es.foldl echo d

-- Controls are echoed in caret notation if the terminal is set up for it.
def echoOf (d : LineDiscipline) (c : Char) : Echo :=
  if d.isLocal Attributes.echoControl && Controls.isControl c && c != '\t' then .caret c else .plain c

def finishErasing (d : LineDiscipline) : LineDiscipline :=
  if d.erasing then { d.echo (.plain '/') with erasing := false } else d

-- Echoes a character that goes to the line.
def echoTyped (d : LineDiscipline) (c : Char) : LineDiscipline :=
  if !d.echoes? then d
  else
    let d := d.finishErasing
    (if d.line.isEmpty then d.echo .markColumn else d).echo (d.echoOf c)

-- Keeping what is typed.

def store (d : LineDiscipline) (cell : Cell) : LineDiscipline :=
  { d with line := cell :: d.line, held := d.held + 1 }

-- Keeps a character. Its likeness to a mark of bad parity is told by doubling it.
def keep (d : LineDiscipline) (c : Char) : LineDiscipline :=
  (if c = '\xFF' && d.isInput Attributes.markParity then d.store ⟨c, false⟩ else d).store ⟨c, false⟩

-- Makes the line readable.
def release (d : LineDiscipline) : LineDiscipline :=
  { d with ready := d.ready ++ d.line.reverse, line := [] }

def complete (d : LineDiscipline) (c : Char) : LineDiscipline :=
  (d.store ⟨c, true⟩).release

def receive (d : LineDiscipline) (c : Char) : LineDiscipline :=
  (d.echoTyped c).keep c

-- Erasing.

-- How many columns the characters before an erased tab take, back to the tab before it or to the
-- beginning of the line, and whether it was a tab.
def widthBefore (d : LineDiscipline) : List Cell → Nat × Bool
  | [] => (0, false)
  | ⟨c, _⟩ :: rest =>
    if c = '\t' then (0, true)
    else
      let (width, afterTab) := d.widthBefore rest
      let own := if Controls.isControl c then if d.isLocal Attributes.echoControl then 2 else 0
        else if d.continues c then 0 else 1
      (width + own, afterTab)

def wipeColumn : List Echo :=
  [.plain '\x08', .plain ' ', .plain '\x08', .backColumn]

-- Shows that a character of several bytes is erased, the first byte given apart. `one` tells that no
-- more than this is erased.
def wipe (d : LineDiscipline) (one : Bool) (c : Char) (more : List Char) (before : List Cell) :
    LineDiscipline :=
  if !d.echoes? then d
  else if d.isLocal Attributes.echoPrint then
    let d := if d.erasing then d else { d.echo (.plain '\\') with erasing := true }
    (d.echo (d.echoOf c)).echoAll (more.flatMap fun c => [.plain c, .backColumn])
  else if one && !d.isLocal Attributes.echoErase then d.echo (d.echoOf d.controls.erase)
  else if c = '\t' then
    let (columns, afterTab) := d.widthBefore before
    d.echo (.eraseTab columns afterTab)
  else if Controls.isControl c then
    if d.isLocal Attributes.echoControl then (d.echoAll wipeColumn).echoAll wipeColumn else d
  else d.echoAll wipeColumn

-- Cuts the last character off a line: its first byte, the others, and the line before it. There is
-- none where the line holds nothing but bytes that continue a character.
def lastChar? (d : LineDiscipline) (more : List Char) : List Cell →
    Option (Char × List Char × List Cell)
  | [] => none
  | ⟨c, _⟩ :: before =>
    if d.continues c then d.lastChar? (c :: more) before else some (c, more, before)

-- How far back an erasure goes.
inductive Extent where
  | char
  | word
  | line
  deriving DecidableEq, Repr

-- Erases from the end of the line. `inWord` tells that a part of a word is erased already. The fuel
-- is the length of the line.
def eraseBack (extent : Extent) : Nat → Bool → LineDiscipline → LineDiscipline
  | 0, _, d => d
  | fuel + 1, inWord, d =>
    match d.lastChar? [] d.line with
    | none => d
    | some (c, more, before) =>
      if extent = .word && inWord && !isWordChar c then d
      else
        let d := { d with line := before, held := d.held - (more.length + 1) }
        let d := d.wipe (extent = .char) c more before
        if extent = .char then d else eraseBack extent fuel (inWord || isWordChar c) d

def erase (d : LineDiscipline) (extent : Extent) : LineDiscipline :=
  let d := eraseBack extent d.line.length false d
  if d.line.isEmpty && d.echoes? then d.finishErasing else d

-- Throws the line away without going back over it on the screen.
def forget (d : LineDiscipline) : LineDiscipline :=
  { d with held := d.held - d.line.length, line := [] }

def killLine (d : LineDiscipline) : LineDiscipline :=
  if !d.echoes? then d.forget
  else if [Attributes.echoKill, Attributes.echoKillErases, Attributes.echoErase].all d.isLocal then
    d.erase .line
  else
    let d := d.forget.finishErasing
    let d := d.echo (d.echoOf d.controls.kill)
    if d.isLocal Attributes.echoKill then d.echo (.plain '\n') else d

-- Typing.

-- Shows the line that is being typed once more.
def reprint (d : LineDiscipline) (c : Char) : LineDiscipline :=
  let d := d.finishErasing
  let d := (d.echo (d.echoOf c)).echo (.plain '\n')
  d.echoAll (d.line.reverse.map fun cell => d.echoOf cell.char)

def awaitLiteral (d : LineDiscipline) : LineDiscipline :=
  let d := { d with literalNext := true }
  if !d.echoes? then d
  else
    let d := d.finishErasing
    if d.isLocal Attributes.echoControl then d.echoAll [.plain '^', .plain '\x08'] else d

-- A character with a meaning for the editing of lines.
def edit? (d : LineDiscipline) (c : Char) : Option LineDiscipline :=
  let k := d.controls
  if c = Controls.none then none
  else if c = k.erase then some (if d.line.isEmpty then d else d.erase .char)
  else if c = k.wordErase && (d.isExtended || c = k.kill) then
    some (if d.line.isEmpty then d else d.erase .word)
  else if c = k.kill then some (if d.line.isEmpty then d else d.killLine)
  else if c = k.literalNext && d.isExtended then some d.awaitLiteral
  else if c = k.reprint && d.echoes? && d.isExtended then some (d.reprint c)
  else if c = '\n' then
    let shows := d.echoes? || d.isLocal Attributes.echoNewline
    some ((if shows then d.echo (.plain c) else d).complete c)
  else if c = k.endOfFile then some (d.complete Controls.none)
  else if c = k.endOfLine || (c = k.secondEndOfLine && d.isExtended) then
    let d := if d.echoes? then
      (if d.line.isEmpty then d.echo .markColumn else d).echo (d.echoOf c) else d
    some (d.complete c)
  else none

def signal? (d : LineDiscipline) (c : Char) : Option Nat :=
  if !d.isLocal Attributes.signals || c = Controls.none then none
  else if c = d.controls.interrupt then some Signals.interrupt
  else if c = d.controls.quit then some Signals.quit
  else if c = d.controls.suspend then some Signals.keyboardStop
  else none

-- Throws away what can be read, and what has been shown since there was so much of it.
def discard (d : LineDiscipline) (shownBefore : Nat) : LineDiscipline :=
  { d with
    ready := []
    line := []
    held := 0
    echoes := []
    erasing := false
    shown := d.shown.drop (d.shownCount - shownBefore)
    shownCount := min d.shownCount shownBefore }

def typeSignal (d : LineDiscipline) (shownBefore : Nat) (c : Char) : LineDiscipline :=
  let d := if d.isLocal Attributes.keepQueues then d else d.discard shownBefore
  let d := if d.isInput Attributes.startStop then d.start else d
  if d.echoes? then d.echo (d.echoOf c) else d

-- Input that is held up by a stop goes on with any character, if the terminal is set up for it.
def startByAny (d : LineDiscipline) : LineDiscipline :=
  if d.stopped && d.isInput Attributes.startStop && d.isInput Attributes.anyStarts then d.start else d

-- What a character becomes on input, if it is not ignored.
def mapped? (d : LineDiscipline) (c : Char) : Option Char :=
  if c = '\r' then
    if d.isInput Attributes.ignoreReturn then none
    else some (if d.isInput Attributes.returnToNewline then '\n' else c)
  else if c = '\n' && d.isInput Attributes.newlineToReturnOnInput then some '\r'
  else some c

-- Receives a character without a special meaning. A newline that another character became shows as a
-- newline, and any other as a control.
def receiveMapped (d : LineDiscipline) (original c : Char) : LineDiscipline :=
  if c = '\n' && original ≠ '\n' && d.echoes? then (d.finishErasing.echo (.plain c)).keep c
  else d.receive c

def lowered (d : LineDiscipline) (c : Char) : Char :=
  let c := if d.isInput Attributes.strip then Char.ofNat (c.toNat % 128) else c
  if d.isInput Attributes.lowerCaseOnInput && d.isExtended then small c else c

def isFlowControl (d : LineDiscipline) (c : Char) : Bool :=
  d.isInput Attributes.startStop && c ≠ Controls.none &&
    (c = d.controls.start || c = d.controls.stop)

-- Types one character. The second component is the signal that it sends, if it sends one.
def typeChar (shownBefore : Nat) (d : LineDiscipline) (c : Char) : LineDiscipline × Option Nat :=
  let c := d.lowered c
  if d.literalNext then (({ d with literalNext := false } : LineDiscipline).startByAny.receive c, none)
  else if d.isFlowControl c then
    (if c = d.controls.start then d.start else { d with stopped := true }, none)
  else
    match d.signal? c with
    | some n => (d.typeSignal shownBefore c, some n)
    | none =>
      let d := d.startByAny
      match d.mapped? c with
      | none => (d, none)
      | some mapped =>
        match if d.editsLines then d.edit? mapped else none with
        | some d => (d, none)
        | none => (d.receiveMapped c mapped, none)

-- Whether another character can be taken. A line that is too long stays open to editing: its last
-- character gives way to the next one.
def hasRoom (d : LineDiscipline) : Bool :=
  d.held + 1 < capacity || (d.editsLines && d.ready.isEmpty)

def makeRoom (d : LineDiscipline) : LineDiscipline :=
  if d.held < capacity then d else { d with line := d.line.drop 1, held := d.held - 1 }

-- Types characters as long as there is room.
def typeFrom (shownBefore : Nat) (d : LineDiscipline) : List Char → LineDiscipline × List Nat
  | [] => ({ d with waiting := [] }, [])
  | c :: rest =>
    if !d.hasRoom then ({ d with waiting := c :: rest }, [])
    else
      match d.makeRoom.typeChar shownBefore c with
      | (d, none) => d.typeFrom shownBefore rest
      | (d, some n) => (fun r => (r.1, n :: r.2)) (d.typeFrom shownBefore rest)

-- Where lines are not edited, all that has been typed can be read.
def settle (d : LineDiscipline) : LineDiscipline :=
  (if d.editsLines then d else d.release).flushEchoes

-- Types text. The signals it sends are given in their order.
def typeText (d : LineDiscipline) (text : List Char) : LineDiscipline × List Nat :=
  let (d, signals) := d.typeFrom d.shownCount (d.waiting ++ text)
  (d.settle, signals)

-- Reading.

-- Cuts off what one read of at most `n` characters returns from lines, and whether it ended with the
-- end of one.
def cutLine : Nat → List Cell → List Char × Bool × List Cell
  | 0, cells => ([], false, cells)
  | _, [] => ([], false, [])
  | n + 1, ⟨c, ends⟩ :: rest =>
    if ends then (if c = Controls.none then [] else [c], true, rest)
    else (fun r => (c :: r.1, r.2)) (cutLine n rest)

-- An end of input directly behind what was read belongs to it.
def skipEnd (cells : List Cell) : List Cell :=
  match cells with
  | ⟨c, true⟩ :: rest => if c = Controls.none then rest else cells
  | cells => cells

def withReady (d : LineDiscipline) (ready : List Cell) : LineDiscipline :=
  { d with ready := ready, held := ready.length + d.line.length }

-- Reads at most `n` characters of what is ready. There is room again for what was typed before, and
-- that can send signals.
def take (d : LineDiscipline) (n : Nat) : List Char × LineDiscipline × List Nat :=
  if d.editsLines then
    let (text, ended, rest) := cutLine n d.ready
    let (d, signals) := (d.withReady (if ended then rest else skipEnd rest)).typeText []
    (text, d, signals)
  else
    let (d', signals) := (d.withReady (d.ready.drop n)).typeText []
    ((d.ready.take n).map (·.char), d', signals)

-- Whether a read of `n` characters returns at once.
def isReadable (d : LineDiscipline) (n : Nat) : Bool :=
  if d.editsLines then !d.ready.isEmpty
  else
    let least := d.attributes.vmin.toNat
    !d.ready.isEmpty && min n (max least 1) ≤ d.ready.length ||
      (least == 0 && d.attributes.vtime == 0)

-- Tenths of a second after which a read returns with what there is, if it does.
def patience? (d : LineDiscipline) : Option Nat :=
  if d.editsLines || d.attributes.vtime == 0 || (d.ready.isEmpty && d.attributes.vmin != 0) then none
  else some d.attributes.vtime.toNat

-- Setting up.

-- What becomes of what was typed when the editing of lines is turned on or off.
def reinterpret (d : LineDiscipline) (edits : Bool) : LineDiscipline :=
  let cells := (d.ready ++ d.line.reverse).map fun cell => { cell with ends := false }
  let ready := if edits then
    match cells.reverse with
    | last :: before => ({ last with ends := true } :: before).reverse
    | [] => []
  else cells
  { d with ready := ready, line := [], erasing := false, literalNext := false }

def configure (d : LineDiscipline) (a : Attributes) : LineDiscipline :=
  let edited := d.editsLines
  let flowed := d.isInput Attributes.startStop
  let d := { d with attributes := a }
  let d := if d.editsLines = edited then d else d.reinterpret d.editsLines
  if flowed && !d.isInput Attributes.startStop then d.start else d

end LineDiscipline

end TermBridge
