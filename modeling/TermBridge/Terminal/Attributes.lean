import TermBridge.Terminal.Controls

namespace TermBridge

structure Attributes where
  iflag : UInt32
  oflag : UInt32
  cflag : UInt32
  lflag : UInt32
  vmin : UInt8
  vtime : UInt8
  controls : Controls := {}
  -- The number of the line discipline.
  discipline : UInt8 := 0
  deriving DecidableEq, Repr

-- Which of the program's own streams a terminal serves.
inductive StreamRole where
  | input
  | output
  | error
  deriving DecidableEq, Repr

def StreamRole.name : StreamRole → String
  | .input => "stdin"
  | .output => "stdout"
  | .error => "stderr"

namespace Attributes

-- A new terminal: line editing, echo and signals are on.
def standard : Attributes where
  iflag := 1280
  oflag := 5
  cflag := 191
  lflag := 35387
  vmin := 1
  vtime := 0

-- Reading attributes keeps the bits that have a name and drops the others.
def known (a : Attributes) : Attributes :=
  { a with
    iflag := a.iflag &&& 0x7DFF
    oflag := a.oflag &&& 0xFFBF
    cflag := a.cflag &&& 0xD00F1FFF
    lflag := a.lflag &&& 0x1DFFB }

-- What a pseudo-terminal makes of a control word: eight bits, no parity, receiver on.
def forcedControl (c : UInt32) : UInt32 :=
  (c &&& ~~~0x130) ||| 0xB0

-- What a terminal holds after it has been given `a`.
def accepted (a : Attributes) : Attributes :=
  { a with cflag := forcedControl a.cflag }

-- One reading and one setting later.
def norm (a : Attributes) : Attributes :=
  a.known.accepted

-- Bits of the local flags.
def signals : UInt32 := 0x1
def canonical : UInt32 := 0x2
def upperCase : UInt32 := 0x4
def echo : UInt32 := 0x8
def echoErase : UInt32 := 0x10
def echoKill : UInt32 := 0x20
def echoNewline : UInt32 := 0x40
def keepQueues : UInt32 := 0x80
def stopBackground : UInt32 := 0x100
def echoControl : UInt32 := 0x200
def echoPrint : UInt32 := 0x400
def echoKillErases : UInt32 := 0x800
def flushing : UInt32 := 0x1000
def extended : UInt32 := 0x8000
def externalEditing : UInt32 := 0x10000

-- Bits of the input flags.
def ignoreBreak : UInt32 := 0x1
def breakInterrupt : UInt32 := 0x2
def ignoreParity : UInt32 := 0x4
def markParity : UInt32 := 0x8
def parityCheck : UInt32 := 0x10
def strip : UInt32 := 0x20
def newlineToReturnOnInput : UInt32 := 0x40
def ignoreReturn : UInt32 := 0x80
def returnToNewline : UInt32 := 0x100
def lowerCaseOnInput : UInt32 := 0x200
def startStop : UInt32 := 0x400
def anyStarts : UInt32 := 0x800
def startStopSent : UInt32 := 0x1000
def bellWhenFull : UInt32 := 0x2000
def multibyte : UInt32 := 0x4000

-- Bits of the output flags.
def postprocess : UInt32 := 0x1
def upperCaseOnOutput : UInt32 := 0x2
def newlineToReturn : UInt32 := 0x4
def returnToNewlineOnOutput : UInt32 := 0x8
def noReturnAtMargin : UInt32 := 0x10
def newlineReturns : UInt32 := 0x20
def tabDelay : UInt32 := 0x1800

-- Bits of the control flags.
def eightBits : UInt32 := 0x30
def parity : UInt32 := 0x100

def hasLocal (a : Attributes) (bits : UInt32) : Bool :=
  a.lflag &&& bits != 0

def hasInput (a : Attributes) (bits : UInt32) : Bool :=
  a.iflag &&& bits != 0

def hasOutput (a : Attributes) (bits : UInt32) : Bool :=
  a.oflag &&& bits != 0

-- Eight bits without parity, for a stream of any role.
def rawControl (a : Attributes) : Attributes :=
  { a with cflag := (a.cflag &&& ~~~(eightBits ||| parity)) ||| eightBits }

-- The attributes for raw mode: input loses editing, echo, signals and character mapping, and reads
-- return with the first byte; output loses its processing.
def raw (role : StreamRole) (a : Attributes) : Attributes :=
  let a := a.rawControl
  match role with
  | .input =>
    { a with
      lflag := a.lflag &&& ~~~(echo ||| canonical ||| extended ||| signals)
      iflag := a.iflag &&& ~~~(breakInterrupt ||| returnToNewline ||| parityCheck ||| strip ||| startStop)
      vmin := 1
      vtime := 0 }
  | .output | .error => { a with oflag := a.oflag &&& ~~~postprocess }

end Attributes

end TermBridge
