import TermBridge.Unix.Call

namespace TermBridge.Programs.Stty

inductive Word where
  | control
  | input
  | output
  | local_
  deriving DecidableEq, Repr

def Word.get (w : Word) (a : Attributes) : UInt32 :=
  match w with
  | .control => a.cflag
  | .input => a.iflag
  | .output => a.oflag
  | .local_ => a.lflag

def Word.set (w : Word) (flags : UInt32) (a : Attributes) : Attributes :=
  match w with
  | .control => { a with cflag := flags }
  | .input => { a with iflag := flags }
  | .output => { a with oflag := flags }
  | .local_ => { a with lflag := flags }

-- What a flag is on a terminal that is set up sensibly.
inductive Sensible where
  | any
  | on
  | off
  deriving DecidableEq, Repr

structure Flag where
  name : String
  word : Word
  bits : UInt32
  -- The bits of the field that this is a value of.
  field : UInt32 := 0
  sensible : Sensible := .any
  -- Another name for what has a name already.
  isAlias : Bool := false
  deriving DecidableEq, Repr

-- A value of a field is exchanged for another one, but not switched off.
def Flag.reversible (f : Flag) : Bool :=
  f.field = 0

def Flag.mask (f : Flag) : UInt32 :=
  if f.field = 0 then f.bits else f.field

def Flag.isOn (f : Flag) (a : Attributes) : Bool :=
  f.word.get a &&& f.mask == f.bits

def Flag.switch (f : Flag) (on : Bool) (a : Attributes) : Attributes :=
  let cleared := f.word.get a &&& ~~~f.mask
  f.word.set (if on then cleared ||| f.bits else cleared) a

def controlFlags : List Flag := [
  ⟨"parenb", .control, 0x100, 0, .any, false⟩,
  ⟨"parodd", .control, 0x200, 0, .any, false⟩,
  ⟨"cmspar", .control, 0x40000000, 0, .any, false⟩,
  ⟨"cs5", .control, 0, 0x30, .any, false⟩,
  ⟨"cs6", .control, 0x10, 0x30, .any, false⟩,
  ⟨"cs7", .control, 0x20, 0x30, .any, false⟩,
  ⟨"cs8", .control, 0x30, 0x30, .any, false⟩,
  ⟨"hupcl", .control, 0x400, 0, .any, false⟩,
  ⟨"hup", .control, 0x400, 0, .any, true⟩,
  ⟨"cstopb", .control, 0x40, 0, .any, false⟩,
  ⟨"cread", .control, 0x80, 0, .on, false⟩,
  ⟨"clocal", .control, 0x800, 0, .any, false⟩,
  ⟨"crtscts", .control, 0x80000000, 0, .any, false⟩]

def inputFlags : List Flag := [
  ⟨"ignbrk", .input, Attributes.ignoreBreak, 0, .off, false⟩,
  ⟨"brkint", .input, Attributes.breakInterrupt, 0, .on, false⟩,
  ⟨"ignpar", .input, Attributes.ignoreParity, 0, .any, false⟩,
  ⟨"parmrk", .input, Attributes.markParity, 0, .any, false⟩,
  ⟨"inpck", .input, Attributes.parityCheck, 0, .any, false⟩,
  ⟨"istrip", .input, Attributes.strip, 0, .any, false⟩,
  ⟨"inlcr", .input, Attributes.newlineToReturnOnInput, 0, .off, false⟩,
  ⟨"igncr", .input, Attributes.ignoreReturn, 0, .off, false⟩,
  ⟨"icrnl", .input, Attributes.returnToNewline, 0, .on, false⟩,
  ⟨"ixon", .input, Attributes.startStop, 0, .any, false⟩,
  ⟨"ixoff", .input, Attributes.startStopSent, 0, .off, false⟩,
  ⟨"tandem", .input, Attributes.startStopSent, 0, .any, true⟩,
  ⟨"iuclc", .input, Attributes.lowerCaseOnInput, 0, .off, false⟩,
  ⟨"ixany", .input, Attributes.anyStarts, 0, .off, false⟩,
  ⟨"imaxbel", .input, Attributes.bellWhenFull, 0, .on, false⟩,
  ⟨"iutf8", .input, Attributes.multibyte, 0, .off, false⟩]

def outputFlags : List Flag := [
  ⟨"opost", .output, Attributes.postprocess, 0, .on, false⟩,
  ⟨"olcuc", .output, Attributes.upperCaseOnOutput, 0, .off, false⟩,
  ⟨"ocrnl", .output, Attributes.returnToNewlineOnOutput, 0, .off, false⟩,
  ⟨"onlcr", .output, Attributes.newlineToReturn, 0, .on, false⟩,
  ⟨"onocr", .output, Attributes.noReturnAtMargin, 0, .off, false⟩,
  ⟨"onlret", .output, Attributes.newlineReturns, 0, .off, false⟩,
  ⟨"ofill", .output, 0x40, 0, .off, false⟩,
  ⟨"ofdel", .output, 0x80, 0, .off, false⟩,
  ⟨"nl1", .output, 0x100, 0x100, .off, false⟩,
  ⟨"nl0", .output, 0, 0x100, .on, false⟩,
  ⟨"cr3", .output, 0x600, 0x600, .off, false⟩,
  ⟨"cr2", .output, 0x400, 0x600, .off, false⟩,
  ⟨"cr1", .output, 0x200, 0x600, .off, false⟩,
  ⟨"cr0", .output, 0, 0x600, .on, false⟩,
  ⟨"tab3", .output, 0x1800, Attributes.tabDelay, .off, false⟩,
  ⟨"tab2", .output, 0x1000, Attributes.tabDelay, .off, false⟩,
  ⟨"tab1", .output, 0x800, Attributes.tabDelay, .off, false⟩,
  ⟨"tab0", .output, 0, Attributes.tabDelay, .on, false⟩,
  ⟨"bs1", .output, 0x2000, 0x2000, .off, false⟩,
  ⟨"bs0", .output, 0, 0x2000, .on, false⟩,
  ⟨"vt1", .output, 0x4000, 0x4000, .off, false⟩,
  ⟨"vt0", .output, 0, 0x4000, .on, false⟩,
  ⟨"ff1", .output, 0x8000, 0x8000, .off, false⟩,
  ⟨"ff0", .output, 0, 0x8000, .on, false⟩]

def localFlags : List Flag := [
  ⟨"isig", .local_, Attributes.signals, 0, .on, false⟩,
  ⟨"icanon", .local_, Attributes.canonical, 0, .on, false⟩,
  ⟨"iexten", .local_, Attributes.extended, 0, .on, false⟩,
  ⟨"echo", .local_, Attributes.echo, 0, .on, false⟩,
  ⟨"echoe", .local_, Attributes.echoErase, 0, .on, false⟩,
  ⟨"crterase", .local_, Attributes.echoErase, 0, .any, true⟩,
  ⟨"echok", .local_, Attributes.echoKill, 0, .on, false⟩,
  ⟨"echonl", .local_, Attributes.echoNewline, 0, .off, false⟩,
  ⟨"noflsh", .local_, Attributes.keepQueues, 0, .off, false⟩,
  ⟨"xcase", .local_, Attributes.upperCase, 0, .off, false⟩,
  ⟨"tostop", .local_, Attributes.stopBackground, 0, .off, false⟩,
  ⟨"echoprt", .local_, Attributes.echoPrint, 0, .off, false⟩,
  ⟨"prterase", .local_, Attributes.echoPrint, 0, .any, true⟩,
  ⟨"echoctl", .local_, Attributes.echoControl, 0, .on, false⟩,
  ⟨"ctlecho", .local_, Attributes.echoControl, 0, .any, true⟩,
  ⟨"echoke", .local_, Attributes.echoKillErases, 0, .on, false⟩,
  ⟨"crtkill", .local_, Attributes.echoKillErases, 0, .any, true⟩,
  ⟨"flusho", .local_, Attributes.flushing, 0, .off, false⟩,
  ⟨"extproc", .local_, Attributes.externalEditing, 0, .off, false⟩]

def words : List (List Flag) :=
  [controlFlags, inputFlags, outputFlags, localFlags]

def flags : List Flag :=
  words.flatten

-- Control characters.

structure Key where
  name : String
  get : Controls → Char
  set : Controls → Char → Controls

def keys : List Key := [
  ⟨"intr", (·.interrupt), fun k c => { k with interrupt := c }⟩,
  ⟨"quit", (·.quit), fun k c => { k with quit := c }⟩,
  ⟨"erase", (·.erase), fun k c => { k with erase := c }⟩,
  ⟨"kill", (·.kill), fun k c => { k with kill := c }⟩,
  ⟨"eof", (·.endOfFile), fun k c => { k with endOfFile := c }⟩,
  ⟨"eol", (·.endOfLine), fun k c => { k with endOfLine := c }⟩,
  ⟨"eol2", (·.secondEndOfLine), fun k c => { k with secondEndOfLine := c }⟩,
  ⟨"swtch", (·.switch), fun k c => { k with switch := c }⟩,
  ⟨"start", (·.start), fun k c => { k with start := c }⟩,
  ⟨"stop", (·.stop), fun k c => { k with stop := c }⟩,
  ⟨"susp", (·.suspend), fun k c => { k with suspend := c }⟩,
  ⟨"rprnt", (·.reprint), fun k c => { k with reprint := c }⟩,
  ⟨"werase", (·.wordErase), fun k c => { k with wordErase := c }⟩,
  ⟨"lnext", (·.literalNext), fun k c => { k with literalNext := c }⟩,
  ⟨"discard", (·.discard), fun k c => { k with discard := c }⟩]

-- Speeds: the number that stands for each in the control flags.

def speeds : List (String × UInt32) := [
  ("0", 0), ("50", 1), ("75", 2), ("110", 3), ("134", 4), ("134.5", 4), ("150", 5), ("200", 6),
  ("300", 7), ("600", 8), ("1200", 9), ("1800", 10), ("2400", 11), ("4800", 12), ("9600", 13),
  ("19200", 14), ("38400", 15), ("exta", 14), ("extb", 15), ("57600", 0x1001), ("115200", 0x1002),
  ("230400", 0x1003), ("460800", 0x1004), ("500000", 0x1005), ("576000", 0x1006),
  ("921600", 0x1007), ("1000000", 0x1008), ("1152000", 0x1009), ("1500000", 0x100A),
  ("2000000", 0x100B), ("2500000", 0x100C), ("3000000", 0x100D), ("3500000", 0x100E),
  ("4000000", 0x100F)]

def speedMask : UInt32 := 0x100F

def speedText (a : Attributes) : String :=
  match speeds.find? (·.2 == a.cflag &&& speedMask) with
  | some (text, _) => text
  | none => "0"

def setSpeed (code : UInt32) (a : Attributes) : Attributes :=
  { a with cflag := (a.cflag &&& ~~~speedMask) ||| code }

-- Settings that stand for others.

abbrev Change := Attributes → Attributes

def switchAll (settings : List (String × Bool)) : Change := fun a =>
  settings.foldl (fun a setting =>
    match flags.find? (·.name == setting.1) with
    | some f => f.switch setting.2 a
    | none => a) a

def sensible : Change := fun a =>
  let a := flags.foldl (fun a f =>
    match f.sensible with
    | .any => a
    | .on => f.switch true a
    | .off => if f.reversible then f.switch false a else a) a
  { a with vmin := 1, vtime := 0, controls := {} }

def raw : Change := fun a =>
  let a := switchAll [("opost", false), ("isig", false), ("icanon", false), ("xcase", false)] a
  { a with iflag := 0, vmin := 1, vtime := 0 }

def cooked : Change :=
  switchAll [("brkint", true), ("ignpar", true), ("istrip", true), ("icrnl", true), ("ixon", true),
    ("opost", true), ("isig", true), ("icanon", true)]

def letterCase (on : Bool) : Change :=
  switchAll [("xcase", on), ("iuclc", on), ("olcuc", on)]

def screen : Change :=
  switchAll [("echoe", true), ("echoctl", true), ("echoke", true)]

def standardKeys : Change := fun a =>
  { a with controls := { a.controls with erase := '\x7F', kill := '\x15' } }

def combination? (name : String) (on : Bool) : Option Change :=
  match name, on with
  | "evenp", true | "parity", true =>
    some (switchAll [("parodd", false), ("parenb", true), ("cs7", true)])
  | "oddp", true => some (switchAll [("parodd", true), ("parenb", true), ("cs7", true)])
  | "evenp", false | "parity", false | "oddp", false =>
    some (switchAll [("parenb", false), ("cs8", true)])
  | "nl", true => some (switchAll [("icrnl", false), ("onlcr", false)])
  | "nl", false =>
    some (switchAll [("icrnl", true), ("inlcr", false), ("igncr", false), ("onlcr", true),
      ("ocrnl", false), ("onlret", false)])
  | "ek", true => some standardKeys
  | "sane", true => some sensible
  | "cooked", on | "raw", on => some (if on = (name = "raw") then raw else cooked)
  | "cbreak", on => some (switchAll [("icanon", !on)])
  | "pass8", true => some (switchAll [("parenb", false), ("cs8", true), ("istrip", false)])
  | "pass8", false => some (switchAll [("parenb", true), ("cs7", true), ("istrip", true)])
  | "litout", true =>
    some (switchAll [("parenb", false), ("cs8", true), ("istrip", false), ("opost", false)])
  | "litout", false =>
    some (switchAll [("parenb", true), ("cs7", true), ("istrip", true), ("opost", true)])
  | "decctlq", on => some (switchAll [("ixany", !on)])
  | "tabs", on => some (switchAll [(if on then "tab0" else "tab3", true)])
  | "lcase", on | "LCASE", on => some (letterCase on)
  | "crt", true => some screen
  | "dec", true =>
    some fun a =>
      let a := standardKeys a
      switchAll [("ixany", false)] (screen { a with controls := { a.controls with interrupt := '\x03' } })
  | _, _ => none

-- The setting that an argument stands for, where a minus sign in front switches it off.
def change? (name : String) (on : Bool) : Option Change :=
  match flags.find? (·.name == name) with
  | some f =>
    if on || f.reversible then some (f.switch on) else none
  | none => combination? name on

end TermBridge.Programs.Stty
