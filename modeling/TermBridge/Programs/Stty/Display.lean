import TermBridge.Programs.Stty.Setting
import TermBridge.Text.Caret
import TermBridge.Text.Numeral

namespace TermBridge.Programs.Stty

-- Text in lines that are not longer than the screen is wide.
structure Page where
  text : String := ""
  column : Nat := 0
  width : Nat
  deriving DecidableEq, Repr

namespace Page

def add (p : Page) (item : String) : Page :=
  if p.column = 0 then { p with text := p.text ++ item, column := item.length }
  else if p.width ≤ p.column + item.length then
    { p with text := p.text ++ "\n" ++ item, column := item.length }
  else { p with text := p.text ++ " " ++ item, column := p.column + 1 + item.length }

def addAll (p : Page) (items : List String) : Page :=
  items.foldl add p

def newline (p : Page) : Page :=
  { p with text := p.text ++ "\n", column := 0 }

-- A line of its own, or several; nothing where there are no items.
def paragraph (p : Page) (items : List String) : Page :=
  if items.isEmpty then p else (p.addAll items).newline

end Page

def keyText (c : Char) : String :=
  if c = Controls.none then "<undef>" else String.ofList (Caret.visible c)

def keyItem (k : Key) (controls : Controls) : String :=
  k.name ++ " = " ++ keyText (k.get controls) ++ ";"

def leastItem (a : Attributes) : String :=
  "min = " ++ a.vmin.toNat.repr ++ "; time = " ++ a.vtime.toNat.repr ++ ";"

def speedItem (a : Attributes) : String :=
  "speed " ++ speedText a ++ " baud;"

def sizeItem (size : TerminalSize) : String :=
  "rows " ++ size.rows.toNat.repr ++ "; columns " ++ size.cols.toNat.repr ++ ";"

def disciplineItem (a : Attributes) : String :=
  "line = " ++ a.discipline.toNat.repr ++ ";"

-- What is said about a flag where only the difference from the sensible counts.
def Flag.difference? (f : Flag) (a : Attributes) : Option String :=
  if f.isAlias then none
  else if f.isOn a then if f.sensible = .off then some f.name else none
  else if f.sensible = .on && f.reversible then some ("-" ++ f.name)
  else none

def Flag.item? (f : Flag) (a : Attributes) : Option String :=
  if f.isAlias then none
  else if f.isOn a then some f.name
  else if f.reversible then some ("-" ++ f.name)
  else none

def differences (width : Nat) (v : Unix.TerminalView) : String :=
  let page : Page := { width := width }
  let page := page.paragraph [speedItem v.attributes, disciplineItem v.attributes]
  let changed := keys.filter fun k => k.get v.attributes.controls ≠ k.get {}
  let items := changed.map fun k => keyItem k v.attributes.controls
  let page := page.paragraph
    (items ++ if v.attributes.hasLocal Attributes.canonical then [] else [leastItem v.attributes])
  (words.foldl (fun p fs => p.paragraph (fs.filterMap (·.difference? v.attributes))) page).text

def everything (width : Nat) (v : Unix.TerminalView) : String :=
  let page : Page := { width := width }
  let page := page.paragraph [speedItem v.attributes, sizeItem v.size, disciplineItem v.attributes]
  let page := page.paragraph (keys.map (keyItem · v.attributes.controls) ++ [leastItem v.attributes])
  (words.foldl (fun p fs => p.paragraph (fs.filterMap (·.item? v.attributes))) page).text

-- Control characters in the order of the system's own table.
def keyTable (a : Attributes) : List Nat :=
  let k := a.controls
  [k.interrupt.toNat, k.quit.toNat, k.erase.toNat, k.kill.toNat, k.endOfFile.toNat,
    a.vtime.toNat, a.vmin.toNat, k.switch.toNat, k.start.toNat, k.stop.toNat,
    k.suspend.toNat, k.endOfLine.toNat, k.reprint.toNat, k.discard.toNat, k.wordErase.toNat,
    k.literalNext.toNat, k.secondEndOfLine.toNat]

def keyTableSize : Nat := 32

def record (a : Attributes) : String :=
  let table := keyTable a ++ List.replicate (keyTableSize - (keyTable a).length) 0
  let numbers := [a.iflag.toNat, a.oflag.toNat, a.cflag.toNat, a.lflag.toNat] ++ table
  ":".intercalate (numbers.map fun n => String.ofList (Numeral.hex n)) ++ "\n"

-- Reads back what `record` has written. The line discipline is not recorded.
def ofRecord? (text : String) : Option Attributes :=
  match (text.splitOn ":").mapM fun number => Numeral.value? 16 number.toList with
  | some (i :: o :: c :: l :: table) =>
    if table.length ≠ keyTableSize || [i, o, c, l].any (0xFFFFFFFF < ·) || table.any (0xFF < ·) then none
    else
      let key (n : Nat) : Char := Char.ofNat (table.getD n 0)
      some {
        iflag := UInt32.ofNat i, oflag := UInt32.ofNat o, cflag := UInt32.ofNat c, lflag := UInt32.ofNat l
        vmin := UInt8.ofNat (table.getD 6 0), vtime := UInt8.ofNat (table.getD 5 0)
        controls := {
          interrupt := key 0, quit := key 1, erase := key 2, kill := key 3, endOfFile := key 4
          switch := key 7, start := key 8, stop := key 9, suspend := key 10, endOfLine := key 11
          reprint := key 12, discard := key 13, wordErase := key 14, literalNext := key 15
          secondEndOfLine := key 16 } }
  | _ => none

end TermBridge.Programs.Stty
